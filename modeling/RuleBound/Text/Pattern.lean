import RuleBound.Text.CharClass

/-!
Patterns: regular expressions over characters, and how they match.

A pattern is matched at the beginning of a text and need not use all of it. Of several ways to
match, the first in order is taken: alternatives from left to right, a greedy repetition as often
as it can, a lazy one as seldom. `run` finds that way by trying: it is given what has to match
behind a pattern, and when that fails it goes on to the next way.
-/

namespace RuleBound.Text

/-- A mark: a condition on a place in a text. -/
inductive Mark
  | start
  | lineStart
  /-- The end, or a final line feed. -/
  | finish
  | lineEnd
  | textEnd
  /-- A word begins or ends here, or, if negated, neither. -/
  | boundary (ascii negated : Bool)
  deriving DecidableEq, Repr

/-- How a repetition chooses the number of its rounds. -/
inductive Greed
  | greedy
  | lazy
  /-- As often as it can, and what a round has taken it keeps. -/
  | possessive
  deriving DecidableEq, Repr

/-- A pattern. -/
inductive Pattern
  | empty
  | oneOf (chars : CharClass)
  | mark (mark : Mark)
  | sequence (first second : Pattern)
  | either (first second : Pattern)
  /-- At least `least` times and, if there is a bound, at most `most` times. -/
  | many (inner : Pattern) (least : Nat) (most : Option Nat) (greed : Greed)
  /-- What matches is kept under a number. -/
  | group (index : Nat) (inner : Pattern)
  /-- The first way to match and no other. -/
  | atomic (inner : Pattern)
  /-- The pattern matches here, or does not, without using anything. -/
  | ahead (negated : Bool) (inner : Pattern)
  /-- The pattern matches the `width` characters before this place, or does not. -/
  | behind (width : Nat) (negated : Bool) (inner : Pattern)
  /-- What a group has matched comes again. -/
  | again (index : Nat) (folding : Folding)
  /-- One pattern or another, as a group has matched or not. -/
  | given (index : Nat) (yes no : Pattern)
  deriving Inhabited

/-- A place in a text: its number, what stands before it, nearest first, and what follows, with what
groups have matched. -/
structure Spot where
  place : Nat
  before : List Char
  rest : List Char
  groups : List (Nat × List Char) := []

namespace Spot

/-- The place behind the next character. -/
def next? (s : Spot) : Option (Char × Spot) :=
  match s.rest with
  | [] => none
  | c :: rest => some (c, { s with place := s.place + 1, before := c :: s.before, rest := rest })

/-- The place some characters back, if there are that many. -/
def back? (s : Spot) (count : Nat) : Option Spot :=
  if s.before.length < count then none
  else some { s with
    place := s.place - count
    before := s.before.drop count
    rest := (s.before.take count).reverse ++ s.rest }

/-- What a group has matched. -/
def captured? (s : Spot) (index : Nat) : Option (List Char) :=
  (s.groups.find? fun g => g.1 == index).map Prod.snd

/-- Keep what a group has matched since another place. -/
def capture (s : Spot) (index : Nat) (origin : Spot) : Spot :=
  { s with groups := (index, origin.rest.take (s.place - origin.place)) ::
      s.groups.filter fun g => g.1 != index }

end Spot

/-- Whether a mark holds at a place. -/
def Mark.holds (s : Spot) : Mark → Bool
  | start => s.before.isEmpty
  | lineStart => s.before.isEmpty || s.before.head? == some '\n'
  | finish => s.rest.isEmpty || s.rest == ['\n']
  | lineEnd => s.rest.isEmpty || s.rest.head? == some '\n'
  | textEnd => s.rest.isEmpty
  | boundary ascii negated =>
    let isWord (cs : List Char) := cs.head?.any (CharClass.isWordChar ascii)
    (!s.before.isEmpty || !s.rest.isEmpty) && ((isWord s.before != isWord s.rest) != negated)

/-- A character as comparisons with a group see it. -/
def Folding.fold : Folding → Char → Char
  | .none, c => c
  | .ascii, c => c.toLower
  | .all, c => lowerHead c

namespace Pattern

/-- What has to match behind a pattern. -/
abbrev Goal := Spot → Option Spot

/-- The first success of two. -/
def orTry (first : Option Spot) (second : Unit → Option Spot) : Option Spot :=
  match first with
  | some s => some s
  | none => second ()

/-- Whether another round is allowed after some. -/
def allows (most : Option Nat) (count : Nat) : Bool := most.all (count < ·)

/-- Rounds as often as possible. A round that would begin where the last one began is not tried;
`fuel` bounds the rounds. -/
def greedily (round : Goal → Goal) (least : Nat) (most : Option Nat) (goal : Goal) :
    (fuel count : Nat) → (last : Option Nat) → Goal
  | 0, _, _, s => goal s
  | fuel + 1, count, last, s =>
    if count < least then round (greedily round least most goal fuel (count + 1) last) s
    else if allows most count && last != some s.place then
      orTry (round (greedily round least most goal fuel (count + 1) (some s.place)) s)
        fun _ => goal s
    else goal s

/-- Rounds as seldom as possible. -/
def lazily (round : Goal → Goal) (least : Nat) (most : Option Nat) (goal : Goal) :
    (fuel count : Nat) → (last : Option Nat) → Goal
  | 0, _, _, s => goal s
  | fuel + 1, count, last, s =>
    if count < least then round (lazily round least most goal fuel (count + 1) last) s
    else
      orTry (goal s) fun _ =>
        if allows most count && last != some s.place then
          round (lazily round least most goal fuel (count + 1) (some s.place)) s
        else none

/-- Rounds as often as possible, none of which is undone. -/
def firmly (round : Goal → Goal) (least : Nat) (most : Option Nat) :
    (fuel count : Nat) → (last : Option Nat) → Spot → Option Spot
  | 0, _, _, s => some s
  | fuel + 1, count, last, s =>
    if count < least then
      match round some s with
      | some e => firmly round least most fuel (count + 1) last e
      | none => none
    else if allows most count && last != some s.place then
      match round some s with
      | some e => firmly round least most fuel (count + 1) (some s.place) e
      | none => some s
    else some s

/-- What a group has matched, once more. -/
def repeated (folding : Folding) : List Char → Goal
  | [], s => some s
  | c :: text, s =>
    match s.next? with
    | some (d, s) => if folding.fold c == folding.fold d then repeated folding text s else none
    | none => none

/-- Match a pattern at a place and then what has to follow. -/
def run : Pattern → Goal → Goal
  | empty, goal, s => goal s
  | oneOf chars, goal, s =>
    match s.next? with
    | some (c, s) => if chars.holds c then goal s else none
    | none => none
  | mark m, goal, s => if m.holds s then goal s else none
  | sequence first second, goal, s => run first (run second goal) s
  | either first second, goal, s => orTry (run first goal s) fun _ => run second goal s
  | many inner least most greed, goal, s =>
    let fuel := least + s.rest.length + 2
    match greed with
    | .greedy => greedily (run inner) least most goal fuel 0 none s
    | .lazy => lazily (run inner) least most goal fuel 0 none s
    | .possessive => (firmly (run inner) least most fuel 0 none s).bind goal
  | group index inner, goal, s => run inner (fun e => goal (e.capture index s)) s
  | atomic inner, goal, s => (run inner some s).bind goal
  | ahead negated inner, goal, s =>
    match run inner some s with
    | some e => if negated then none else goal { s with groups := e.groups }
    | none => if negated then goal s else none
  | behind width negated inner, goal, s =>
    match (s.back? width).bind (run inner some) with
    | some e => if negated then none else goal { s with groups := e.groups }
    | none => if negated then goal s else none
  | again index folding, goal, s =>
    match s.captured? index with
    | some text => (repeated folding text s).bind goal
    | none => none
  | given index yes no, goal, s =>
    if (s.captured? index).isSome then run yes goal s else run no goal s

/-- Whether a text begins with a match. -/
def accepts (pattern : Pattern) (s : String) : Bool :=
  (pattern.run some ⟨0, [], s.toList, []⟩).isSome

/-! ## Widths -/

/-- The least and the greatest number of characters that a match may have. -/
structure Width where
  least : Nat
  most : Option Nat
  deriving DecidableEq, Repr, Inhabited

/-- The sum of two bounds. -/
def addBounds : Option Nat → Option Nat → Option Nat
  | some m, some n => some (m + n)
  | _, _ => none

/-- The greater of two bounds. -/
def maxBounds : Option Nat → Option Nat → Option Nat
  | some m, some n => some (max m n)
  | _, _ => none

/-- The product of two bounds; nothing, however often, stays nothing. -/
def mulBounds : Option Nat → Option Nat → Option Nat
  | some m, some n => some (m * n)
  | some 0, none | none, some 0 => some 0
  | _, _ => none

/-- The width of a pattern, given those of the groups. -/
def width (groups : Nat → Width) : Pattern → Width
  | empty | mark _ | ahead _ _ | behind _ _ _ => ⟨0, some 0⟩
  | oneOf _ => ⟨1, some 1⟩
  | sequence a b =>
    ⟨(a.width groups).least + (b.width groups).least,
      addBounds (a.width groups).most (b.width groups).most⟩
  | either a b | given _ a b =>
    ⟨min (a.width groups).least (b.width groups).least,
      maxBounds (a.width groups).most (b.width groups).most⟩
  | many a least most _ => ⟨(a.width groups).least * least, mulBounds (a.width groups).most most⟩
  | group _ a | atomic a => a.width groups
  | again index _ => groups index

end Pattern

end RuleBound.Text
