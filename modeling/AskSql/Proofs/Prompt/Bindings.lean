import AskSql.Prompt.Standard
import AskSql.Proofs.Prompt.Segments

/-!
Values that are bound in advance, and values that a call binds.

Binding in advance is binding first: of several values of a variable the last one counts, wherever
it was bound. So as soon as a call binds every variable of a prompt, the prompt is rendered, and its
text tells nothing of what was bound in advance.

* `Prompt.render_bind`, `Prompt.bind_bind`: binding in advance is binding first.
* `Prompt.bind_composes`: what binding in advance does to a prompt, and what it leaves alone.
* `Prompt.bare`, `Prompt.render_of_covers`: a call that binds every variable, and the text that the
  prompt and its bare form both have then.
* `Prompt.mem_variableNames_of_write`, `Prompt.render_of_write`: the same for prompts put together
  from segments.
* `Prompt.variableNames_eq_iff`: the variables of a prompt are told by which they are, since they
  are named in ascending order.
-/

namespace AskSql.Prompt

open Template (Segment)

/-! ### Binding in advance -/

/-- The prompt with nothing bound in advance. -/
def bare (p : Prompt) : Prompt := { p with bound := .empty }

/-- Binding in two goes is binding one list behind the other. -/
lemma bind_bind (p : Prompt) (first second : Bindings) :
    (p.bind first).bind second = p.bind (first ++ second) := by
  simp only [bind, Dictionary.insertAll_append]

/-- What is bound in advance is bound before what a call binds. -/
lemma render_bind (p : Prompt) (first second : Bindings) :
    (p.bind first).render second = p.render (first ++ second) := by
  have hvalues : (p.bind first).values second = p.values (first ++ second) := by
    simp only [values, bind, Dictionary.insertAll_append]
  rw [render, render, hvalues]
  rfl

/-- Bindings that give every variable of a prompt its value. -/
def Covers (bindings : Bindings) (p : Prompt) (value : String → String) : Prop :=
  ∀ name ∈ p.variableNames, bindings.reverse.lookup name = some (value name)

/-- Bindings that cover a prompt decide its text, whatever was bound in advance. -/
lemma render_of_covers {p : Prompt} {bindings : Bindings} {value : String → String}
    (h : Covers bindings p value) :
    p.render bindings
      = .ok (String.ofList (Template.fill (fun name => (value name).toList) p.tokens)) :=
  render_of_bound fun name hname => by rw [valueOf?, h name hname, Option.some_or]

/-! ### Prompts put together from segments -/

section Segments

variable {p : Prompt} {segments : List Segment} (htemplate : p.template = Template.write segments)
  (hnames : ∀ segment ∈ segments, segment.WellNamed)

include htemplate hnames

lemma tokens_of_write : p.tokens = segments.flatMap Segment.tokens := by
  rw [tokens, htemplate, Template.scan_write hnames]

lemma mem_variableNames_of_write {name : String} :
    name ∈ p.variableNames ↔ .slot name ∈ segments := by
  rw [mem_variableNames_iff, tokens_of_write htemplate hnames, Template.slot_mem_tokens_iff]

/-- Covered by a call, a prompt reads as its texts and the values one after the other. -/
lemma render_of_write {bindings : Bindings} {value : String → String}
    (h : ∀ name, .slot name ∈ segments → bindings.reverse.lookup name = some (value name)) :
    p.render bindings = .ok (String.join (segments.map (Segment.expand value))) := by
  have hcovers : Covers bindings p value := fun name hname =>
    h name ((mem_variableNames_of_write htemplate hnames).mp hname)
  rw [render_of_covers hcovers, tokens_of_write htemplate hnames, Template.fill_tokens]

end Segments

/-! ### What binding in advance does to a prompt -/

/-- **Binding in advance composes.** A call sees the bindings of a prompt as if they stood in front
of its own, with the same text or the same failure; binding in two goes is binding one list behind
the other, in either order if the lists have no name in common; and of the bindings of a name the
last one counts. The variables, the template and the purpose of the prompt stay as they are. -/
theorem bind_composes (p : Prompt) (first second : Bindings) :
    (∀ call, (p.bind first).render call = p.render (first ++ call))
    ∧ (p.bind first).bind second = p.bind (first ++ second)
    ∧ ((∀ binding ∈ first, ∀ other ∈ second, binding.1 ≠ other.1) →
      (p.bind first).bind second = (p.bind second).bind first)
    ∧ (∀ name, (p.bind first).bound.get? name
      = (first.reverse.lookup name).or (p.bound.get? name))
    ∧ (p.bind first).variableNames = p.variableNames
    ∧ (p.bind first).template = p.template
    ∧ (p.bind first).kind = p.kind := by
  refine ⟨p.render_bind first, p.bind_bind first second, fun hdisjoint => ?_,
    Dictionary.get?_insertAll p.bound first, rfl, rfl, rfl⟩
  have hbound := Dictionary.insertAll_comm hdisjoint p.bound
  simp only [bind, hbound]

/-- Two values for a variable that has one already, and a value for another variable. -/
theorem bracedPrompt_composes :
    (∀ binding ∈ [("row", "no"), ("row", "\x7b_2\x7d")], ∀ other ∈ [("_2", "\x7d\x7b")],
      binding.1 ≠ other.1)
    ∧ (bracedPrompt.bind [("row", "no"), ("row", "\x7b_2\x7d")]).bind [("_2", "\x7d\x7b")]
      = (bracedPrompt.bind [("_2", "\x7d\x7b")]).bind [("row", "no"), ("row", "\x7b_2\x7d")]
    ∧ (bracedPrompt.bind [("row", "no"), ("row", "\x7b_2\x7d")]).render [("_2", "\x7d\x7b")]
      = .ok "\x7b\x7b_2\x7d\x7d\x7b\x7d\x7b\x7b_2\x7d" := by
  have hdisjoint : ∀ binding ∈ [("row", "no"), ("row", "\x7b_2\x7d")],
      ∀ other ∈ [("_2", "\x7d\x7b")], binding.1 ≠ other.1 := by decide
  have hnames : ∀ segment ∈ bracedSegments, segment.WellNamed := by decide
  have hvalue : ∀ name, .slot name ∈ bracedSegments →
      [("row", "no"), ("row", "\x7b_2\x7d"), ("_2", "\x7d\x7b")].reverse.lookup name
        = some (bracedValue name) := by
    intro name hname
    obtain rfl | rfl | rfl : name = "row" ∨ name = "_2" ∨ name = "row" := by
      simpa [bracedSegments] using hname
    · rfl
    · rfl
    · rfl
  obtain ⟨hrender, -, hcomm, -⟩ :=
    bind_composes bracedPrompt [("row", "no"), ("row", "\x7b_2\x7d")] [("_2", "\x7d\x7b")]
  exact ⟨hdisjoint, hcomm hdisjoint, (hrender _).trans (render_of_write rfl hnames hvalue)⟩

/-! ### Which variables a prompt has -/

/-- Names in ascending order are told by which they are. -/
lemma eq_of_ascending {names others : List String} (hnames : names.Pairwise (· < ·))
    (hothers : others.Pairwise (· < ·)) (h : ∀ name, name ∈ names ↔ name ∈ others) :
    names = others := by
  have hne : ∀ {name other : String}, name < other → name ≠ other :=
    fun hlt heq => String.lt_irrefl _ (heq ▸ hlt)
  have hperm : names.Perm others :=
    (List.perm_ext_iff_of_nodup (hnames.imp hne) (hothers.imp hne)).mpr h
  exact hperm.eq_of_pairwise (fun _ _ _ _ hlt hgt => absurd hgt (String.lt_asymm hlt)) hnames
    hothers

lemma variableNames_eq_iff {p : Prompt} {names : List String} (hnames : names.Pairwise (· < ·)) :
    p.variableNames = names ↔ ∀ name, name ∈ p.variableNames ↔ name ∈ names := by
  refine ⟨fun h name => by rw [h], eq_of_ascending p.variableNames_ascending hnames⟩

end AskSql.Prompt
