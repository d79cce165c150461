import RuleBound.Text.Hex
import RuleBound.Text.Numeral
import RuleBound.Text.Pattern

/-!
Reading patterns from text.

A pattern begins with options for the whole of it, `(?i)` and the like; a group may set options
for itself. A backslash and the character behind it are one sign, also within comments and names.
Groups are numbered by their opening parentheses; a group can be referred to only after it has
been closed, and what looks back has to have one width.
-/

namespace RuleBound.Text

-- Powers are those of the core library, whichever others are known.
attribute [local instance (high)] instPowNat

/-- Why a text is no pattern. -/
inductive PatternFault
  | malformed
  /-- A repetition asks for too many rounds. -/
  | tooManyRounds
  /-- Options contradict each other. -/
  | contradiction
  deriving DecidableEq, Repr

/-- Options of a pattern. -/
structure PatternOptions where
  caseless : Bool := false
  multiline : Bool := false
  dotAll : Bool := false
  /-- Blanks and comments may be strewn in. -/
  spaced : Bool := false
  ascii : Bool := false
  /-- No repetitions. -/
  template : Bool := false
  /-- All scripts were asked for. -/
  scripts : Bool := false
  deriving DecidableEq, Repr, Inhabited

namespace PatternOptions

/-- How far case is disregarded. -/
def folding (o : PatternOptions) : Folding :=
  if !o.caseless then .none else if o.ascii then .ascii else .all

/-- Options with those of some letters set. -/
def setLetters (o : PatternOptions) (letters : List Char) : PatternOptions where
  caseless := o.caseless || letters.contains 'i'
  multiline := o.multiline || letters.contains 'm'
  dotAll := o.dotAll || letters.contains 's'
  spaced := o.spaced || letters.contains 'x'
  ascii := o.ascii || letters.contains 'a'
  template := o.template || letters.contains 't'
  scripts := o.scripts || letters.contains 'u'

/-- Options within a group that sets some letters and takes others back. The letters for ASCII and
for all scripts exclude each other. -/
def within (o : PatternOptions) (set unset : List Char) : PatternOptions where
  caseless := (o.caseless || set.contains 'i') && !unset.contains 'i'
  multiline := (o.multiline || set.contains 'm') && !unset.contains 'm'
  dotAll := (o.dotAll || set.contains 's') && !unset.contains 's'
  spaced := (o.spaced || set.contains 'x') && !unset.contains 'x'
  ascii := if set.contains 'u' then false else o.ascii || set.contains 'a'
  template := o.template
  scripts := o.scripts

end PatternOptions

/-- A sign of a pattern: a character, or a backslash with the character behind it. -/
inductive Sign
  | plain (c : Char)
  | escaped (c : Char)
  deriving DecidableEq, Repr

/-- The state of reading: the signs that are left and what is known of groups. -/
structure Reading where
  rest : List Sign
  /-- The widths of the groups so far; those that are still open have none. -/
  groups : List (Option Pattern.Width) := []
  names : List (String × Nat) := []
  /-- Numbers of groups that have to exist in the end. -/
  wanted : List Nat := []
  /-- While something looks back: the number of groups there were before. -/
  known : Option Nat := none
  /-- Whether something that looks back has no single width. -/
  isLoose : Bool := false

namespace Reading

/-- Signs of a text. A backslash at the end is no sign. -/
def signs? : List Char → Option (List Sign)
  | [] => some []
  | ['\\'] => none
  | '\\' :: c :: rest => (signs? rest).map (.escaped c :: ·)
  | c :: rest => (signs? rest).map (.plain c :: ·)

/-- Reading in progress. -/
abbrev Reader := StateT Reading (Except PatternFault)

/-- The next sign, which stays. -/
def peek : Reader (Option Sign) := return (← get).rest.head?

/-- Drop the next sign. -/
def skip : Reader Unit := modify fun r => { r with rest := r.rest.drop 1 }

/-- The next sign, if there is one, which is used. -/
def take? : Reader (Option Sign) := do
  let sign ← peek
  skip
  return sign

/-- The next sign, which has to be there. -/
def take : Reader Sign := do
  match ← take? with
  | some sign => return sign
  | none => throw .malformed

/-- Use the next sign if it is a given character. -/
def accept (c : Char) : Reader Bool := do
  if (← peek) = some (.plain c) then
    skip
    return true
  else return false

/-- The next sign has to be a given character. -/
def expect (c : Char) : Reader Unit := do
  if !(← accept c) then throw .malformed

/-- The characters of a sign. -/
def spelled : Sign → List Char
  | .plain c => [c]
  | .escaped c => ['\\', c]

/-- What stands before a closing character, which is used too. It must not be empty. -/
def upTo (closing : Char) : Reader String := do
  let signs := (← get).rest
  let name := signs.takeWhile (· != .plain closing)
  let rest := signs.dropWhile (· != .plain closing)
  if name.isEmpty || rest.isEmpty then throw .malformed
  modify fun r => { r with rest := rest.drop 1 }
  return String.ofList (name.flatMap spelled)

/-- Plain characters of some sort, at most so many. -/
def some? (limit : Nat) (p : Char → Bool) : Reader (List Char) := do
  let fits : Sign → Bool
    | .plain c => p c
    | .escaped _ => false
  let found := ((← get).rest.takeWhile fits).take limit
  modify fun r => { r with rest := r.rest.drop found.length }
  return found.flatMap spelled

/-! ## Groups -/

/-- Whether a text can name a group: a letter or an underscore, then letters, digits and
underscores. -/
def isName (s : String) : Bool :=
  match s.toList with
  | [] => false
  | c :: rest => (c == '_' || (isLetterOrNumber c && (decimalDigit? c).isNone)) &&
      rest.all fun c => c == '_' || isLetterOrNumber c

/-- Open a group, perhaps under a name that is not taken yet. -/
def openGroup (name : Option String) : Reader Nat := do
  let r ← get
  let index := r.groups.length + 1
  match name with
  | some name =>
    if r.names.any fun n => n.1 == name then throw .malformed
    set { r with groups := r.groups ++ [none], names := r.names ++ [(name, index)] }
  | none => set { r with groups := r.groups ++ [none] }
  return index

/-- The widths of groups by number. -/
def widthOf (r : Reading) (index : Nat) : Pattern.Width :=
  ((r.groups[index - 1]?).bind id).getD ⟨0, some 0⟩

/-- Close a group. -/
def closeGroup (index : Nat) (inner : Pattern) : Reader Unit :=
  modify fun r => { r with groups := r.groups.set (index - 1) (some (inner.width r.widthOf)) }

/-- Whether a group is closed. -/
def isClosed (r : Reading) (index : Nat) : Bool := ((r.groups[index - 1]?).bind id).isSome

/-- While something looks back, only groups that were closed before it can be referred to. -/
def checkLookingBack (index : Nat) : Reader Unit := do
  let r ← get
  match r.known with
  | some count => if !r.isClosed index || count < index then throw .malformed
  | none => return ()

/-- A reference to a group, which has to be closed. -/
def reference (o : PatternOptions) (index : Nat) : Reader Pattern := do
  if index = 0 || !(← get).isClosed index then throw .malformed
  checkLookingBack index
  return .again index o.folding

/-- The group of a name. -/
def named (name : String) : Reader Nat := do
  match (← get).names.find? fun n => n.1 == name with
  | some n => return n.2
  | none => throw .malformed

/-! ## Escapes -/

/-- The value of hexadecimal digits. -/
def hexValue (ds : List Char) : Nat :=
  ds.foldl (fun n c => n * 16 + (hexValue? c).getD 0) 0

/-- Whether a character is an octal digit. -/
def isOctalDigit (c : Char) : Bool := '0' ≤ c && c ≤ '7'

/-- The value of octal digits. -/
def octalValue (ds : List Char) : Nat := ds.foldl (fun n c => n * 8 + (c.toNat - 48)) 0

/-- Exactly so many hexadecimal digits. -/
def hexCode (count : Nat) : Reader Nat := do
  let ds ← some? count isHexDigit
  if ds.length = count && hexValue ds ≤ 0x10ffff then return hexValue ds else throw .malformed

/-- The class that an escaped letter stands for. -/
def escapedClass? (o : PatternOptions) (c : Char) : Option CharClass :=
  if c = 'd' then some (.digit o.ascii)
  else if c = 'D' then some (.negated (.digit o.ascii))
  else if c = 'w' then some (.word o.ascii)
  else if c = 'W' then some (.negated (.word o.ascii))
  else if c = 's' then some (.blank o.ascii)
  else if c = 'S' then some (.negated (.blank o.ascii))
  else none

/-- The mark that an escaped letter stands for. -/
def escapedMark? (o : PatternOptions) (c : Char) : Option Mark :=
  if c = 'A' then some .start
  else if c = 'Z' then some .textEnd
  else if c = 'b' then some (.boundary o.ascii false)
  else if c = 'B' then some (.boundary o.ascii true)
  else none

/-- The control character that an escaped letter stands for. -/
def control? (c : Char) : Option Nat :=
  if c = 'n' then some 10
  else if c = 't' then some 9
  else if c = 'r' then some 13
  else if c = 'f' then some 12
  else if c = 'v' then some 11
  else if c = 'a' then some 7
  else none

/-- The code point of an escape that is the same inside and outside of brackets. Letters and digits
without a meaning of their own stand for nothing. -/
def escapedCode (c : Char) : Reader Nat := do
  match control? c with
  | some code => return code
  | none =>
    if c = 'x' then hexCode 2
    else if c = 'u' then hexCode 4
    else if c = 'U' then hexCode 8
    else if c.isAlphanum then throw .malformed
    else return c.toNat

/-- A code point in octal digits, of which the first is known. -/
def octalCode (first : Char) : Reader Nat := do
  let code := octalValue (first :: (← some? 2 isOctalDigit))
  if 0xff < code then throw .malformed else return code

/-- An escape outside of brackets. -/
def escape (o : PatternOptions) (c : Char) : Reader Pattern := do
  let single (code : Nat) : Pattern := .oneOf (.single code o.folding)
  match escapedClass? o c, escapedMark? o c with
  | some cls, _ => return .oneOf cls
  | none, some m => return .mark m
  | none, none =>
    if c = '0' then return single (← octalCode c)
    else if c.isDigit then
      let second ← some? 1 Char.isDigit
      match second, (← peek) with
      | [d], some (.plain e) =>
        if isOctalDigit c && isOctalDigit d && isOctalDigit e then
          skip
          let code := octalValue [c, d, e]
          if 0xff < code then throw .malformed else return single code
        else reference o (digitsToNat [c, d])
      | ds, _ => reference o (digitsToNat (c :: ds))
    else return single (← escapedCode c)

/-! ## Brackets -/

/-- A member of a bracketed class: a code point or a class. -/
def member (o : PatternOptions) : Sign → Reader (Nat ⊕ CharClass)
  | .plain c => return .inl c.toNat
  | .escaped c => do
    match escapedClass? o c with
    | some cls => return .inr cls
    | none =>
      if c = 'b' then return .inl 8
      else if isOctalDigit c then return .inl (← octalCode c)
      else return .inl (← escapedCode c)

/-- A member as a class. -/
def memberClass (o : PatternOptions) : Nat ⊕ CharClass → CharClass
  | .inl code => .single code o.folding
  | .inr cls => cls

/-- The members of a bracketed class behind those that are known; `fuel` bounds their number. -/
def members (o : PatternOptions) : (fuel : Nat) → List CharClass → Reader (List CharClass)
  | 0, _ => throw .malformed
  | fuel + 1, known => do
    let sign ← take
    if sign = .plain ']' && !known.isEmpty then return known
    let first ← member o sign
    if !(← accept '-') then members o fuel (known ++ [memberClass o first])
    else
      let sign ← take
      if sign = .plain ']' then
        return known ++ [memberClass o first, .single '-'.toNat o.folding]
      match first, ← member o sign with
      | .inl low, .inl high =>
        if high < low then throw .malformed
        members o fuel (known ++ [.range low high o.folding])
      | _, _ => throw .malformed

/-- A bracketed class behind its opening bracket. -/
def brackets (o : PatternOptions) : Reader Pattern := do
  let negated ← accept '^'
  let parts ← members o ((← get).rest.length + 1) []
  return .oneOf (if negated then .negated (.union parts) else .union parts)

/-! ## Repetitions -/

/-- The number of rounds that is too many. -/
def roundLimit : Nat := 2 ^ (32 : Nat) - 1

/-- A number of rounds, if digits give one. -/
def rounds? (ds : List Char) : Reader (Option Nat) := do
  if ds.isEmpty then return none
  if roundLimit ≤ digitsToNat ds then throw .tooManyRounds
  return some (digitsToNat ds)

/-- The bounds of a counted repetition behind its opening brace; what is no such thing is left. -/
def bounds? : Reader (Option (Nat × Option Nat)) := do
  let before ← get
  if (← peek) = some (.plain '\x7d') then return none
  let low ← some? before.rest.length Char.isDigit
  let comma ← accept ','
  let high ← if comma then some? before.rest.length Char.isDigit else pure low
  if !(← accept '\x7d') then
    set before
    return none
  let least ← rounds? low
  let most ← rounds? high
  if most.any (· < least.getD 0) then throw .malformed
  return some (least.getD 0, most)

/-- An item of a sequence: a mark cannot be repeated, a repetition not again. -/
inductive Item
  | single (pattern : Pattern)
  | mark (pattern : Pattern)
  | repeated (pattern : Pattern)

/-- The pattern of an item. -/
def Item.pattern : Item → Pattern
  | .single p | .mark p | .repeated p => p

/-- Repeat the last of some items, the last of which comes first. -/
def repeatLast (o : PatternOptions) (items : List Item) (least : Nat) (most : Option Nat) :
    Reader (List Item) := do
  let greed ← do
    if ← accept '?' then pure Greed.lazy
    else if ← accept '+' then pure Greed.possessive
    else pure Greed.greedy
  match items with
  | .single p :: rest =>
    if o.template then throw .malformed
    return .repeated (.many p least most greed) :: rest
  | _ => throw .malformed

/-! ## Options -/

/-- The letters of options. -/
def isOptionLetter (c : Char) : Bool := "imsxatu".toList.contains c

/-- Whether letters set both of the options that exclude each other. -/
def contradict (letters : List Char) : Bool := letters.contains 'a' && letters.contains 'u'

/-- Options behind an opening parenthesis and question mark: the letters that are set and those
that are taken back, and whether they hold for the whole pattern. -/
def optionLetters : Reader (List Char × List Char × Bool) := do
  let length := (← get).rest.length
  let set ← some? length isOptionLetter
  if contradict set then throw .malformed
  if !set.isEmpty then
    if ← accept ')' then return (set, [], true)
  if set.contains 't' then throw .malformed
  if ← accept ':' then return (set, [], false)
  expect '-'
  let unset ← some? length isOptionLetter
  expect ':'
  if unset.isEmpty || unset.any "atu".toList.contains || set.any unset.contains then
    throw .malformed
  return (set, unset, false)

/-- Skip a comment behind its opening, up to the closing parenthesis. -/
def comment : Reader Unit := do
  let rest := (← get).rest.dropWhile (· != .plain ')')
  if rest.isEmpty then throw .malformed
  modify fun r => { r with rest := rest.drop 1 }

/-- Whether a sign is a blank that may be strewn in. -/
def isStrewn : Option Sign → Bool
  | some (.plain c) => CharClass.isBlankChar true c
  | _ => false

/-- Skip a strewn comment up to the end of its line. -/
def lineComment : Reader Unit :=
  modify fun r => { r with rest := (r.rest.dropWhile (· != .plain '\n')).drop 1 }

/-- The options for the whole pattern, which stand at its beginning; `fuel` bounds their number. -/
def leadingOptions : (fuel : Nat) → PatternOptions → Reader PatternOptions
  | 0, o => return o
  | fuel + 1, o => do
    let before ← get
    match before.rest with
    | .plain '(' :: .plain '?' :: .plain '#' :: rest =>
      set { before with rest := rest }
      comment
      leadingOptions fuel o
    | .plain '(' :: .plain '?' :: .plain c :: rest =>
      if !isOptionLetter c then return o
      set { before with rest := .plain c :: rest }
      let (letters, _, whole) ← optionLetters
      if whole then leadingOptions fuel (o.setLetters letters)
      else
        set before
        return o
    | sign :: rest =>
      if o.spaced && isStrewn (some sign) then
        set { before with rest := rest }
        leadingOptions fuel o
      else if o.spaced && sign = .plain '#' then
        lineComment
        leadingOptions fuel o
      else return o
    | [] => return o

/-! ## Patterns -/

/-- A group that looks ahead or back. -/
def looking (backward negated : Bool) (inner : Pattern) : Reader Pattern := do
  if !backward then return .ahead negated inner
  let w := inner.width (← get).widthOf
  if w.most ≠ some w.least || 2 ^ (32 : Nat) ≤ w.least then
    modify fun r => { r with isLoose := true }
  return .behind w.least negated inner

/-- The number of the group that a choice depends on. -/
def condition : Reader Nat := do
  let name ← upTo ')'
  let index ←
    if isName name then named name
    else
      match readInteger? name with
      | some n =>
        if n ≤ 0 then throw .malformed
        modify fun r => { r with wanted := n.toNat :: r.wanted }
        pure n.toNat
      | none => throw .malformed
  checkLookingBack index
  return index

mutual
/-- Alternatives up to a closing parenthesis or the end; `fuel` bounds the steps. -/
def either : (fuel : Nat) → PatternOptions → Reader Pattern
  | 0, _ => throw .malformed
  | fuel + 1, o => do
    let first ← sequence fuel o []
    if ← accept '|' then return .either first (← either fuel o)
    else return first

/-- Items one after the other behind those that are known, of which the last comes first. -/
def sequence : (fuel : Nat) → PatternOptions → List Item → Reader Pattern
  | 0, _, _ => throw .malformed
  | fuel + 1, o, items => do
    let finish : Pattern :=
      items.foldl (fun p item => .sequence item.pattern p) .empty
    match ← peek with
    | none | some (.plain '|') | some (.plain ')') => return finish
    | some sign =>
      skip
      let add (p : Pattern) : Reader Pattern := sequence fuel o (.single p :: items)
      match sign with
      | .escaped c =>
        match ← escape o c with
        | .mark m => sequence fuel o (.mark (.mark m) :: items)
        | p => add p
      | .plain c =>
        if o.spaced && isStrewn (some sign) then sequence fuel o items
        else if o.spaced && c = '#' then
          lineComment
          sequence fuel o items
        else if c = '[' then add (← brackets o)
        else if c = '.' then add (.oneOf (if o.dotAll then .any else .visible))
        else if c = '^' then
          sequence fuel o (.mark (.mark (if o.multiline then .lineStart else .start)) :: items)
        else if c = '$' then
          sequence fuel o (.mark (.mark (if o.multiline then .lineEnd else .finish)) :: items)
        else if c = '?' then sequence fuel o (← repeatLast o items 0 (some 1))
        else if c = '*' then sequence fuel o (← repeatLast o items 0 none)
        else if c = '+' then sequence fuel o (← repeatLast o items 1 none)
        else if c = '\x7b' then
          match ← bounds? with
          | some (least, most) => sequence fuel o (← repeatLast o items least most)
          | none => add (.oneOf (.single c.toNat o.folding))
        else if c = '(' then
          match ← parenthesis fuel o with
          | some p => add p
          | none => sequence fuel o items
        else add (.oneOf (.single c.toNat o.folding))

/-- What stands in parentheses, behind the opening one; a comment is nothing. -/
def parenthesis : (fuel : Nat) → PatternOptions → Reader (Option Pattern)
  | 0, _ => throw .malformed
  | fuel + 1, o => do
    let inParentheses (o : PatternOptions) : Reader Pattern := do
      let inner ← either fuel o
      expect ')'
      return inner
    let capturing (name : Option String) : Reader (Option Pattern) := do
      let index ← openGroup name
      let inner ← inParentheses o
      closeGroup index inner
      return some (.group index inner)
    if !(← accept '?') then capturing none
    else
      match ← take with
      | .escaped _ => throw .malformed
      | .plain c =>
        if c = 'P' then
          if ← accept '<' then
            let name ← upTo '>'
            if isName name then capturing (some name) else throw .malformed
          else
            expect '='
            let name ← upTo ')'
            if !isName name then throw .malformed
            return some (← reference o (← named name))
        else if c = ':' then return some (← inParentheses o)
        else if c = '>' then return some (.atomic (← inParentheses o))
        else if c = '#' then
          comment
          return none
        else if c = '=' || c = '!' then
          return some (← looking false (c = '!') (← inParentheses o))
        else if c = '<' then
          let sign ← take
          if sign != .plain '=' && sign != .plain '!' then throw .malformed
          let before ← get
          if before.known.isNone then set { before with known := some before.groups.length }
          let inner ← either fuel o
          modify fun r => { r with known := before.known }
          expect ')'
          return some (← looking true (sign == .plain '!') inner)
        else if c = '(' then
          let index ← condition
          let yes ← sequence fuel o []
          let no ← if ← accept '|' then sequence fuel o [] else pure .empty
          expect ')'
          return some (.given index yes no)
        else if isOptionLetter c || c = '-' then
          modify fun r => { r with rest := .plain c :: r.rest }
          let (set, unset, whole) ← optionLetters
          if whole then throw .malformed
          return some (← inParentheses (o.within set unset))
        else throw .malformed
end

/-- Read a whole pattern. -/
def whole : Reader Pattern := do
  let length := (← get).rest.length
  let o ← leadingOptions (length + 1) {}
  let pattern ← either (4 * length + 8) o
  let r ← get
  if o.ascii && o.scripts then throw .contradiction
  if !r.rest.isEmpty || r.isLoose || r.wanted.any (r.groups.length < ·) then throw .malformed
  return pattern

end Reading

/-- Read a pattern from text. -/
def Pattern.ofText (s : String) : Except PatternFault Pattern :=
  match Reading.signs? s.toList with
  | none => .error .malformed
  | some signs => (Reading.whole.run { rest := signs }).map Prod.fst

end RuleBound.Text
