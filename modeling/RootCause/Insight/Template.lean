import RootCause.Dict
import RootCause.Score.Report
import RootCause.Text.Blank

/-!
Templates with tokens in double braces.
-/

namespace RootCause

/-- The texts before and behind the first pair of two characters `c`. -/
def splitAtPair (c : Char) : List Char → Option (List Char × List Char)
  | a :: b :: rest =>
    if a = c ∧ b = c then some ([], rest)
    else (splitAtPair c (b :: rest)).map fun (before, behind) => (a :: before, behind)
  | _ => none

theorem length_of_splitAtPair {c : Char} {cs before behind : List Char}
    (h : splitAtPair c cs = some (before, behind)) :
    cs.length = before.length + 2 + behind.length := by
  fun_induction splitAtPair c cs generalizing before behind with
  | case1 a b rest hc =>
    simp only [Option.some.injEq, Prod.mk.injEq] at h
    obtain ⟨rfl, rfl⟩ := h
    simp
    omega
  | case2 a b rest hc ih =>
    obtain ⟨⟨p, q⟩, hpq, heq⟩ := Option.map_eq_some_iff.1 h
    simp only [Prod.mk.injEq] at heq
    obtain ⟨rfl, rfl⟩ := heq
    have := ih hpq
    simp only [List.length_cons] at this ⊢
    omega
  | case3 => simp at h

/-- Puts the value of each token in its place, `unknown` for a token without one. White space
around a token does not count, an opening pair without a closing one stays as it is, and
values are not searched for tokens. -/
def render (tokens : Dict String) (cs : List Char) : List Char :=
  match _h : splitAtPair '{' cs with
  | none => cs
  | some (before, inner) =>
    match _h' : splitAtPair '}' inner with
    | none => cs
    | some (token, behind) =>
      let value := (tokens.get? (String.ofList (trim token))).getD unknownText
      before ++ value.toList ++ render tokens behind
termination_by cs.length
decreasing_by
  have := length_of_splitAtPair (by assumption : splitAtPair '{' cs = _)
  have := length_of_splitAtPair (by assumption : splitAtPair '}' inner = _)
  omega

/-- A rendered template. -/
def renderTemplate (template : String) (tokens : Dict String) : String :=
  String.ofList (render tokens template.toList)

end RootCause
