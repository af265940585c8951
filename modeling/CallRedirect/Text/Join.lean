/-! # Joined texts

`joined` puts a separator between texts; `listed` writes numbers as a bracketed list.
-/

namespace CallRedirect.Text
set_option autoImplicit false

/-- The texts one after the other, with a separator between each two. -/
def joined (separator : String) : List String → String
  | [] => ""
  | [s] => s
  | s :: t :: rest => s ++ separator ++ joined separator (t :: rest)

/-- Numbers in brackets, with a comma and a space between each two. -/
def listed (ns : List Nat) : String := "[" ++ joined ", " (ns.map Nat.repr) ++ "]"

/-- A text, or the word for a missing one. -/
def orNone : Option String → String
  | none => "None"
  | some s => s

end CallRedirect.Text
