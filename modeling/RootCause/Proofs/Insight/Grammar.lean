import Mathlib.Logic.ExistsUnique
import RootCause.Proofs.Dict
import RootCause.Proofs.Insight.Template

/-!
Templates taken apart: literals and keys in double braces by turns, and at the end a last literal or
an opening pair that stays open. Every text is exactly one such template, and it is rendered by
putting a value in the place of each key.
-/

namespace RootCause

/-- A template taken apart from the front. -/
inductive Template where
  | literal (last : List Char) (plain : ¬['{', '{'] <:+: last)
  | unclosed (last inner : List Char) (opens : StopsBefore '{' last)
      (stays : ¬['}', '}'] <:+: inner)
  | slot (before key : List Char) (opens : StopsBefore '{' before) (closes : StopsBefore '}' key)
      (rest : Template)

namespace Template

/-- The template as it is written. -/
def text : Template → List Char
  | literal last _ => last
  | unclosed last inner _ _ => last ++ '{' :: '{' :: inner
  | slot before key _ _ rest => before ++ '{' :: '{' :: (key ++ '}' :: '}' :: rest.text)

/-- The template with values in the places of its keys. White space around a key does not count. -/
def filled (value : String → String) : Template → List Char
  | literal last _ => last
  | unclosed last inner _ _ => last ++ '{' :: '{' :: inner
  | slot before key _ _ rest =>
    before ++ (value (String.ofList (trim key))).toList ++ rest.filled value

/-- Whether every opening pair is closed. -/
def Closed : Template → Prop
  | literal .. => True
  | unclosed .. => False
  | slot _ _ _ _ rest => rest.Closed

/-- Takes a text apart at the first pairs of braces. -/
def parse (cs : List Char) : Template :=
  match h : splitAtPair '{' cs with
  | none => literal cs (splitAtPair_eq_none_iff.1 h)
  | some (before, inner) =>
    have opens := (splitAtPair_eq_some h).2
    match h' : splitAtPair '}' inner with
    | none => unclosed before inner opens (splitAtPair_eq_none_iff.1 h')
    | some (key, behind) => slot before key opens (splitAtPair_eq_some h').2 (parse behind)
termination_by cs.length
decreasing_by
  have := length_of_splitAtPair h
  have := length_of_splitAtPair h'
  omega

theorem text_parse (cs : List Char) : (parse cs).text = cs := by
  fun_induction parse cs with
  | case1 => rfl
  | case2 cs before inner h opens h' => exact (splitAtPair_eq_some h).1.symm
  | case3 cs before inner h opens key behind h' ih =>
      rw [text, ih, ← (splitAtPair_eq_some h').1, ← (splitAtPair_eq_some h).1]

theorem parse_text (t : Template) : parse t.text = t := by
  induction t with
  | literal last plain =>
      have ends := splitAtPair_eq_none_iff.2 plain
      rw [text, parse]
      split
      · rfl
      · next h => cases ends.symm.trans h
  | unclosed last inner opens stays =>
      have start := splitAtPair_append opens inner
      rw [text, parse]
      split
      · next h => cases start.symm.trans h
      · next h =>
        cases start.symm.trans h
        split
        · rfl
        · next h' => cases (splitAtPair_eq_none_iff.2 stays).symm.trans h'
  | slot before key opens closes rest ih =>
      have start := splitAtPair_append opens (key ++ '}' :: '}' :: rest.text)
      have stop := splitAtPair_append closes rest.text
      rw [text, parse]
      split
      · next h => cases start.symm.trans h
      · next h =>
        cases start.symm.trans h
        split
        · next h' => cases stop.symm.trans h'
        · next h' =>
          cases stop.symm.trans h'
          rw [ih]

/-- Every text is written by one template. -/
theorem existsUnique_text (cs : List Char) : ∃! t : Template, t.text = cs := by
  refine ⟨parse cs, text_parse cs, ?_⟩
  rintro t rfl
  exact (parse_text t).symm

theorem render_text (tokens : Dict String) (t : Template) :
    render tokens t.text = t.filled (shownText tokens) := by
  induction t with
  | literal last plain =>
      rw [text, render, splitAtPair_eq_none_iff.2 plain]
      rfl
  | unclosed last inner opens stays =>
      rw [text, render, splitAtPair_append opens]
      dsimp only
      rw [splitAtPair_eq_none_iff.2 stays]
      rfl
  | slot before key opens closes rest ih =>
      rw [text, render_slot tokens opens closes, ih]
      rfl

theorem toList_renderTemplate {t : Template} {template : String} (written : t.text = template.toList)
    (tokens : Dict String) :
    (renderTemplate template tokens).toList = t.filled (shownText tokens) := by
  unfold renderTemplate
  rw [String.toList_ofList, ← written, t.render_text]

/-- Braces that come in pairs are those of the template: its literals have none that are left, and
values without a brace add none. -/
theorem noPair_filled {value : String → String} (braceless : ∀ name, '{' ∉ (value name).toList)
    {t : Template} (closed : t.Closed) : ¬['{', '{'] <:+: t.filled value := by
  induction t with
  | literal last plain => exact plain
  | unclosed => cases closed
  | slot before key opens closes rest ih =>
      rw [filled, List.append_assoc]
      exact opens.noPair_append ((StopsBefore.of_notMem (braceless _)).noPair_append (ih closed))

end Template

theorem notMem_shownText {tokens : Dict String}
    (braceless : ∀ name text, tokens.get? name = some text → '{' ∉ text.toList) (name : String) :
    '{' ∉ (shownText tokens name).toList := by
  unfold shownText
  cases found : tokens.get? name with
  | none => decide
  | some text => exact braceless name text found

/-- Rendering is substitution in one pass. A template is taken apart in one way, and whatever the
tokens are, their values are put as they are in the places of the keys. When all pairs are closed,
and no value has an opening brace, no opening pair is left. -/
theorem renderTemplate_eq_filled (template : String) :
    (∃! t : Template, t.text = template.toList) ∧
    ∀ t : Template, t.text = template.toList → ∀ tokens : Dict String,
      (renderTemplate template tokens).toList =
        t.filled (fun name => (tokens.get? name).getD "unknown") ∧
      (t.Closed → (∀ name text, tokens.get? name = some text → '{' ∉ text.toList) →
        ¬['{', '{'] <:+: (renderTemplate template tokens).toList) := by
  refine ⟨Template.existsUnique_text template.toList, ?_⟩
  intro t written tokens
  have rendered := Template.toList_renderTemplate written tokens
  refine ⟨rendered, ?_⟩
  intro closed braceless
  rw [rendered]
  exact Template.noPair_filled (notMem_shownText braceless) closed

/-- Braces that could be read in more than one way. -/
def Template.overlapping : Template :=
  slot [] ['{', 'a'] ⟨by decide, by decide⟩ ⟨by decide, by decide⟩ <|
  slot ['}', ' '] [' ', 'b', ' '] ⟨by decide, by decide⟩ ⟨by decide, by decide⟩ <|
  literal ['{'] (by decide)

def overlappingText : String := "\x7b\x7b\x7ba\x7d\x7d\x7d \x7b\x7b b \x7d\x7d\x7b"

def overlappingTokens : Dict String := .ofList [("\x7ba", "x"), ("b", "y")]

theorem renderTemplate_overlapping :
    Template.overlapping.text = overlappingText.toList ∧
    Template.overlapping.Closed ∧
    (∀ name text, overlappingTokens.get? name = some text → '{' ∉ text.toList) ∧
    (renderTemplate overlappingText overlappingTokens).toList = "x\x7d y\x7b".toList ∧
    ¬['{', '{'] <:+: (renderTemplate overlappingText overlappingTokens).toList := by
  have written : Template.overlapping.text = overlappingText.toList := by decide
  have braceless : ∀ name text, overlappingTokens.get? name = some text → '{' ∉ text.toList := by
    intro name text found
    have member := (Dict.lookup_eq_some_iff_mem overlappingTokens.ascending).1 found
    have each : ∀ e ∈ overlappingTokens.entries, '{' ∉ e.2.toList := by decide
    exact each _ member
  obtain ⟨rendered, noPair⟩ :=
    (renderTemplate_eq_filled overlappingText).2 .overlapping written overlappingTokens
  exact ⟨written, trivial, braceless, rendered.trans (by decide), noPair trivial braceless⟩

end RootCause
