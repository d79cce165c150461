import RuleBound.Proofs.Settings.Course

/-!
Which source of a setting has its way. A variable of the environment goes before everything else.
Without one the value is the last that a call has given, whether by hand or from a file. Values set by
hand are meant to go before those of files; they do unless a file that is read behind the last of them
gives another value.
-/

namespace RuleBound.Settings

variable {α : Type} {sources before after : List α} {value? : α → Option Document} {v : Document}

/-- The value that calls leave by rank: that of the last call that sets one by hand, else the last
that a file gives, else the one that holds if nothing is set. -/
def ranked (calls : List Call) (k : Setting) : Document :=
  ((lastOf calls (Call.setValue? k)).or (lastOf calls (Call.readValue? k))).getD k.default

section Ranks

variable {calls : List Call} {k : Setting}

end Ranks

end RuleBound.Settings
