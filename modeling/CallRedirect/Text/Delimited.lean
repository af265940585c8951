/-! # Characters up to a mark

`upTo?` reads characters up to a mark, with a sort of characters that must not come before it.
-/

namespace CallRedirect.Text
set_option autoImplicit false

/-- The characters before the first `mark`, and those after it; `none` if a barred character or the end comes first. -/
def upTo? (mark : Char) (barred : Char → Bool) : List Char → Option (List Char × List Char)
  | [] => none
  | c :: cs =>
    if c == mark then some ([], cs)
    else if barred c then none
    else (upTo? mark barred cs).map fun (body, rest) => (c :: body, rest)

theorem append_of_upTo? {mark : Char} {barred : Char → Bool} {cs body rest : List Char}
    (h : upTo? mark barred cs = some (body, rest)) : body ++ mark :: rest = cs := by
  induction cs generalizing body with
  | nil => cases h
  | cons c cs ih =>
    simp only [upTo?] at h
    split at h
    · next hc =>
      obtain ⟨rfl, rfl⟩ := by simpa using h
      simp [beq_iff_eq.1 hc]
    · split at h
      · cases h
      · obtain ⟨⟨b, r⟩, hb, h⟩ := Option.map_eq_some_iff.1 h
        obtain ⟨rfl, rfl⟩ := by simpa using h
        simp [ih hb]

theorem length_lt_of_upTo? {mark : Char} {barred : Char → Bool} {cs body rest : List Char}
    (h : upTo? mark barred cs = some (body, rest)) : rest.length < cs.length := by
  have := congrArg List.length (append_of_upTo? h)
  simp only [List.length_append, List.length_cons] at this
  omega

end CallRedirect.Text
