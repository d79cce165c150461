import RuleBound.Key
import RuleBound.Document.Basic
import RuleBound.Digest.Sha256

/-!
Where fresh things come from: identifiers, keys and nonces.

A source gives for every sort of thing a sequence, and draws count how many of each have been
taken. What is drawn depends on the source and the count alone, so two runs with equal sources
draw alike.
-/

namespace RuleBound

/-- The sequences that fresh things are taken from. -/
structure Source where
  eventId : Nat → String
  correlationId : Nat → String
  /-- Lines that separate the parts of an upload. -/
  boundary : Nat → String
  key : Nat → ContentKey
  nonce : Nat → Bytes

/-- How many of each sort have been drawn. -/
structure Draws where
  eventIds : Nat := 0
  correlationIds : Nat := 0
  boundaries : Nat := 0
  keys : Nat := 0
  nonces : Nat := 0
  deriving DecidableEq, Repr, Inhabited

/-- What surrounds an operation: the clock in seconds, the moment as text, the correlation that is
already under way (one that counts as false is none), and the source of fresh things. -/
structure Surroundings where
  now : Int
  timestamp : String
  correlation : Document
  source : Source

/-- What a new event is stamped with. -/
structure Stamp where
  eventId : String
  timestamp : String
  deriving DecidableEq, Repr

/-- The stamp that the next event gets. -/
def Surroundings.stamp (s : Surroundings) (d : Draws) : Stamp :=
  ⟨s.source.eventId d.eventIds, s.timestamp⟩

/-- The correlation to record and the draws after it: one is drawn only if none is under way. -/
def Surroundings.correlate (s : Surroundings) (d : Draws) : Document × Draws :=
  if s.correlation.isTrue then (s.correlation, d)
  else
    (.text (s.source.correlationId d.correlationIds),
      { d with correlationIds := d.correlationIds + 1 })

/-- The key that the digest of a message is. -/
def ContentKey.ofDigest (message : Bytes) : ContentKey :=
  ⟨Sha256.digest message, Sha256.length_digest message⟩

/-- A source without secrets, for rehearsals: the n-th identifier is written from the number n
alone, counted from one, and the n-th key and nonce come from the digest of a text with n in it. -/
def Source.numbered : Source where
  eventId k := "-".intercalate [part k 0 8, part k 8 4, part k 12 4, part k 16 4, part k 20 12]
  correlationId k := "corr-" ++ part k 0 12
  boundary k := part k 0 32
  key k := ContentKey.ofDigest (Text.utf8 s!"key-{k + 1}")
  nonce k := (Sha256.digest (Text.utf8 s!"iv-{k + 1}")).take nonceSize
where
  /-- Some of the 32 digits of a number that stands both in the upper and in the lower part. -/
  part (k start count : Nat) : String :=
    let n := k + 1
    String.ofList (((Text.hexDigits 32 ((n <<< 80) ||| n)).drop start).take count)

/-- A source that derives everything from a seed: keys and nonces are digests of the seed and the
number of the draw, identifiers are written from the digits of such digests. -/
def Source.ofSeed (seed : Bytes) : Source where
  eventId n :=
    let h := Sha256.ofBytes (Text.utf8 s!"event-{n}" ++ seed)
    "-".intercalate [part h 0 8, part h 8 4, part h 12 4, part h 16 4, part h 20 12]
  correlationId n := "corr-" ++ part (Sha256.ofBytes (Text.utf8 s!"correlation-{n}" ++ seed)) 0 12
  boundary n := part (Sha256.ofBytes (Text.utf8 s!"boundary-{n}" ++ seed)) 0 32
  key n := ContentKey.ofDigest (Text.utf8 s!"key-{n}" ++ seed)
  nonce n := (Sha256.digest (Text.utf8 s!"nonce-{n}" ++ seed)).take nonceSize
where
  /-- Some digits of a digest. -/
  part (h : String) (start count : Nat) : String :=
    String.ofList ((h.toList.drop start).take count)

end RuleBound
