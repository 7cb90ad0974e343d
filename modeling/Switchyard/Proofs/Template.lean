import Mathlib.Data.List.Induction
import Switchyard.Proofs.Result
import Switchyard.Template

/-!
# Filling in templates

The text of a template is gone through once, from the left. A cut through the text between two
placeholders, or inside plain text, is not seen in what comes out, unless it tears an opening mark
apart.

* `Template.rendering`: what pieces come to.
* `Template.partsOf_plain`, `Template.partsOf_placeholder`, `Template.partsOf_unclosed`: how a text
  is read, by what stands first in it.
* `Template.rendered_append`: what is rendered of two texts one behind the other.
* `Template.isStatic_iff`: which templates have no placeholder.
* `Template.expands_piecewise`: all of this for whole templates.
-/

namespace Switchyard.Template

open Text

variable {source : String} {s t before behind body rest : List Char} {part : TemplatePart}
  {parts : List TemplatePart} {event : Event} {routeId : String}

/-! ## Pieces -/

/-- The text of pieces for an event and a route. -/
def rendering (event : Event) (routeId : String) (parts : List TemplatePart) : String :=
  String.join (parts.map (renderPart event routeId))

theorem rendering_append (parts more : List TemplatePart) :
    rendering event routeId (parts ++ more) =
      rendering event routeId parts ++ rendering event routeId more := by
  rw [rendering, List.map_append, String.join_append]
  rfl

theorem rendering_cons (part : TemplatePart) (parts : List TemplatePart) :
    rendering event routeId (part :: parts) =
      renderPart event routeId part ++ rendering event routeId parts := by
  rw [rendering, List.map_cons, String.join_cons]
  rfl

/-- A piece of text stands for itself. -/
theorem rendering_textPart (s : List Char) :
    rendering event routeId (textPart s) = String.ofList s := by
  unfold textPart
  cases s with
  | nil => rfl
  | cons c cs =>
    show rendering event routeId [.text (String.ofList (c :: cs))] = _
    rw [rendering_cons]
    exact String.append_empty

theorem ne_text_of_placeholder (h : placeholder source body = .ok part) (text : String) :
    part ≠ .text text := by
  unfold placeholder at h
  dsimp only at h
  split at h
  · cases h
  · split at h
    · obtain rfl := Except.ok.inj h
      nofun
    · split at h
      · obtain rfl := Except.ok.inj h
        nofun
      · cases h

/-- What a placeholder stands for does not depend on the template around it. -/
theorem toOption_placeholder (source source' : String) (body : List Char) :
    (placeholder source body).toOption = (placeholder source' body).toOption := by
  unfold placeholder
  dsimp only
  split
  · rfl
  · rfl

/-! ## Reading -/

theorem partsOf_plain (h : cut? openMark s = none) : partsOf source s = .ok (textPart s) := by
  rw [partsOf]
  split
  · rfl
  · next hcut => cases h.symm.trans hcut

theorem partsOf_unclosed (h : cut? openMark s = some (before, behind))
    (h' : cut? closeMark behind = none) : partsOf source s = .error (.unclosed source) := by
  rw [partsOf]
  split
  · next hcut => cases h.symm.trans hcut
  · next hcut =>
    obtain ⟨rfl, rfl⟩ := Prod.mk.inj (Option.some.inj (h.symm.trans hcut))
    split
    · rfl
    · next hclose => cases h'.symm.trans hclose

theorem partsOf_placeholder (h : cut? openMark s = some (before, behind))
    (h' : cut? closeMark behind = some (body, rest)) :
    partsOf source s = (do
      let part ← placeholder source body
      let more ← partsOf source rest
      .ok (textPart before ++ part :: more)) := by
  rw [partsOf]
  split
  · next hcut => cases h.symm.trans hcut
  · next hcut =>
    obtain ⟨rfl, rfl⟩ := Prod.mk.inj (Option.some.inj (h.symm.trans hcut))
    split
    · next hclose => cases h'.symm.trans hclose
    · next hclose =>
      obtain ⟨rfl, rfl⟩ := Prod.mk.inj (Option.some.inj (h'.symm.trans hclose))
      rfl

/-- What is rendered of a text, if it can be read. -/
def rendered? (event : Event) (routeId : String) (source : String) (s : List Char) :
    Option String :=
  (partsOf source s).toOption.map (rendering event routeId)

theorem rendered?_plain (h : cut? openMark s = none) :
    rendered? event routeId source s = some (String.ofList s) := by
  rw [rendered?, partsOf_plain h, ← rendering_textPart]
  rfl

theorem rendered?_placeholder (h : cut? openMark s = some (before, behind))
    (h' : cut? closeMark behind = some (body, rest)) :
    rendered? event routeId source s = (placeholder source body).toOption.bind fun part =>
      (rendered? event routeId source rest).map fun out =>
        String.ofList before ++ (renderPart event routeId part ++ out) := by
  rw [rendered?, partsOf_placeholder h h', rendered?]
  cases placeholder source body with
  | error e => rfl
  | ok part =>
    cases partsOf source rest with
    | error e => rfl
    | ok more =>
      show some (rendering event routeId (textPart before ++ part :: more)) = some _
      rw [rendering_append, rendering_cons, rendering_textPart]

/-- The whole template shows in errors only. -/
theorem rendered?_source (source source' : String) (s : List Char) :
    rendered? event routeId source s = rendered? event routeId source' s := by
  fun_induction partsOf source s with
  | case1 s hcut => rw [rendered?_plain hcut, rendered?_plain hcut]
  | case2 s before behind hcut hclose =>
    rw [rendered?, rendered?, partsOf_unclosed hcut hclose, partsOf_unclosed hcut hclose]
    rfl
  | case3 s before behind hcut body rest hclose ih =>
    rw [rendered?_placeholder hcut hclose, rendered?_placeholder hcut hclose, ih,
      toOption_placeholder source source']

/-! ## One text behind the other -/

/-- Whether the two halves of an opening mark meet where two texts do. -/
def Tears (s t : List Char) : Prop := s.getLast? = some '{' ∧ t.head? = some '{'

/-- Text in front of a template is rendered as it stands. -/
theorem rendered?_append_plain (h : cut? openMark s = none) (hs : ¬Tears s t) :
    rendered? event routeId source (s ++ t) =
      (rendered? event routeId source t).map (String.ofList s ++ ·) := by
  have hcut : cut? openMark (s ++ t) = (cut? openMark t).map fun p => (s ++ p.1, p.2) := by
    refine cut?_append_of_none h fun front back hmark hfront hback hsuf hpre => hs ?_
    -- Of the two characters of the mark, one is on either side.
    obtain ⟨c, rfl⟩ : ∃ c, front = [c] := by
      match front, back, hmark with
      | [], _, _ => exact absurd rfl hfront
      | [c], _, _ => exact ⟨c, rfl⟩
      | [_, _], [], _ => exact absurd rfl hback
    obtain ⟨rfl, rfl⟩ := List.cons.inj hmark
    obtain ⟨s', rfl⟩ := hsuf
    obtain ⟨t', rfl⟩ := hpre
    exact ⟨by simp, rfl⟩
  cases ht : cut? openMark t with
  | none =>
    rw [ht] at hcut
    rw [rendered?_plain hcut, rendered?_plain ht, String.ofList_append]
    rfl
  | some p =>
    obtain ⟨before, behind⟩ := p
    rw [ht] at hcut
    cases hclose : cut? closeMark behind with
    | none =>
      rw [rendered?, rendered?, partsOf_unclosed hcut hclose, partsOf_unclosed ht hclose]
      rfl
    | some p =>
      obtain ⟨body, rest⟩ := p
      rw [rendered?_placeholder hcut hclose, rendered?_placeholder ht hclose]
      cases (placeholder source body).toOption with
      | none => rfl
      | some part =>
        cases rendered? event routeId source rest with
        | none => rfl
        | some out => simp [String.ofList_append, String.append_assoc]

/-- A text that can be read is rendered, and what stands behind it is rendered as a template of its
own. -/
theorem rendered?_append {out : String} (h : rendered? event routeId source s = some out)
    (hs : ¬Tears s t) : rendered? event routeId source (s ++ t) =
      (rendered? event routeId source t).map (out ++ ·) := by
  fun_induction partsOf source s generalizing out with
  | case1 s hcut =>
    rw [rendered?_plain hcut] at h
    obtain rfl := Option.some.inj h
    exact rendered?_append_plain hcut hs
  | case2 s before behind hcut hclose =>
    rw [rendered?, partsOf_unclosed hcut hclose] at h
    cases h
  | case3 s before behind hcut body rest hclose ih =>
    rw [rendered?_placeholder hcut hclose] at h
    obtain ⟨part, hpart, h⟩ := Option.bind_eq_some_iff.mp h
    obtain ⟨more, hmore, rfl⟩ := Option.map_eq_some_iff.mp h
    have hrest : ¬Tears rest t := by
      rintro ⟨hlast, hhead⟩
      refine hs ⟨?_, hhead⟩
      rw [append_of_cut hcut, append_of_cut hclose, List.getLast?_append, List.getLast?_append,
        hlast]
      rfl
    have hcut' := cut?_append_of_some hcut t
    have hclose' := cut?_append_of_some hclose t
    rw [rendered?_placeholder hcut' hclose', hpart, ih hmore hrest, Option.bind_some,
      Option.map_map]
    simp only [Function.comp_def, String.append_assoc]

/-! ## Templates -/

theorem parse_eq_ok {text : String} {x : Template} :
    parse text = .ok x ↔ partsOf text text.toList = .ok x.parts ∧ x.source = text := by
  unfold parse
  rw [map_eq_ok]
  constructor
  · rintro ⟨parts, hparts, rfl⟩
    exact ⟨hparts, rfl⟩
  · rintro ⟨hparts, rfl⟩
    exact ⟨x.parts, hparts, rfl⟩

theorem rendered?_of_parse {text : String} {x : Template} (h : parse text = .ok x) (event : Event)
    (routeId source : String) :
    rendered? event routeId source text.toList = some (x.render event routeId) := by
  rw [rendered?_source source text, rendered?, (parse_eq_ok.mp h).1]
  rfl

theorem exists_parse_iff {text : String} (event : Event) (routeId source : String) :
    (∃ x, parse text = .ok x) ↔ ∃ out, rendered? event routeId source text.toList = some out := by
  constructor
  · rintro ⟨x, hx⟩
    exact ⟨_, rendered?_of_parse hx event routeId source⟩
  · rintro ⟨out, h⟩
    rw [rendered?_source source text] at h
    obtain ⟨parts, hparts, -⟩ := Option.map_eq_some_iff.mp h
    exact ⟨⟨text, parts⟩, parse_eq_ok.mpr ⟨toOption_eq_some.mp hparts, rfl⟩⟩

/-- Two templates one behind the other, unless their texts tear an opening mark apart. -/
theorem parse_append {a b : String} {x : Template} (h : parse a = .ok x)
    (hs : ¬Tears a.toList b.toList) :
    ((∃ z, parse (a ++ b) = .ok z) ↔ ∃ y, parse b = .ok y) ∧
      ∀ y z, parse b = .ok y → parse (a ++ b) = .ok z → ∀ event routeId,
        z.render event routeId = x.render event routeId ++ y.render event routeId := by
  have hboth : ∀ (event : Event) (routeId : String),
      rendered? event routeId a (a ++ b).toList =
        (rendered? event routeId a b.toList).map (x.render event routeId ++ ·) := by
    intro event routeId
    rw [String.toList_append]
    exact rendered?_append (rendered?_of_parse h event routeId a) hs
  refine ⟨?_, fun y z hy hz event routeId => ?_⟩
  · rw [exists_parse_iff default "" a, exists_parse_iff default "" a, hboth]
    simp
  · have hsame := hboth event routeId
    rw [rendered?_of_parse hy, rendered?_of_parse hz] at hsame
    exact Option.some.inj hsame

theorem isStatic_iff {text : String} {x : Template} (h : parse text = .ok x) :
    x.isStatic = true ↔ ¬openMark <:+: text.toList := by
  obtain ⟨hparts, -⟩ := parse_eq_ok.mp h
  have hmark : openMark ≠ [] := List.cons_ne_nil _ _
  rw [← cut?_eq_none hmark, isStatic]
  cases hcut : cut? openMark text.toList with
  | none =>
    rw [partsOf_plain hcut] at hparts
    rw [← Except.ok.inj hparts]
    refine iff_of_true ?_ rfl
    unfold textPart
    split <;> rfl
  | some p =>
    obtain ⟨before, behind⟩ := p
    refine iff_of_false ?_ nofun
    -- A mark that is not closed makes no template; one that is makes a part that is no text.
    cases hclose : cut? closeMark behind with
    | none =>
      rw [partsOf_unclosed hcut hclose] at hparts
      cases hparts
    | some p =>
      rw [partsOf_placeholder hcut hclose] at hparts
      obtain ⟨part, hpart, hparts⟩ := bind_eq_ok.mp hparts
      obtain ⟨more, -, hparts⟩ := bind_eq_ok.mp hparts
      rw [← Except.ok.inj hparts, List.all_append, List.all_cons]
      cases part with
      | text t => exact absurd rfl (ne_text_of_placeholder hpart t)
      | _ => simp

/-- Without a placeholder, the text itself is rendered. -/
theorem render_of_isStatic {text : String} {x : Template} (h : parse text = .ok x)
    (hs : x.isStatic = true) (event : Event) (routeId : String) :
    x.render event routeId = text := by
  have hmark : openMark ≠ [] := List.cons_ne_nil _ _
  have hcut := (cut?_eq_none hmark).mpr ((isStatic_iff h).mp hs)
  have hrendered := rendered?_of_parse h event routeId text
  rw [rendered?_plain hcut, String.ofList_toList] at hrendered
  exact (Option.some.inj hrendered).symm

/-- The text of a placeholder. -/
def placeholderText (name : String) : String := String.ofList (openMark ++ name.toList ++ closeMark)

theorem getLast?_placeholderText (name : String) :
    (placeholderText name).toList.getLast? = some '}' := by
  rw [placeholderText, String.toList_ofList, List.getLast?_append]
  rfl

/-- A template, a placeholder and another template: what the placeholder stands for comes between
what the two come to, whatever is written in it. -/
theorem parse_around {a b name : String} {x y p : Template} (hx : parse a = .ok x)
    (hp : parse (placeholderText name) = .ok p) (hy : parse b = .ok y)
    (ha : a.toList.getLast? ≠ some '{') :
    ∃ z, parse (a ++ placeholderText name ++ b) = .ok z ∧ ∀ event routeId,
      z.render event routeId =
        x.render event routeId ++ p.render event routeId ++ y.render event routeId := by
  obtain ⟨hfront, hrender⟩ := parse_append hx (b := placeholderText name) fun h => ha h.1
  obtain ⟨w, hw⟩ := hfront.mpr ⟨p, hp⟩
  have hlast : (a ++ placeholderText name).toList.getLast? = some '}' := by
    rw [String.toList_append, List.getLast?_append, getLast?_placeholderText]
    rfl
  obtain ⟨hback, hrender'⟩ := parse_append hw (b := b) fun h => nomatch hlast.symm.trans h.1
  obtain ⟨z, hz⟩ := hback.mpr ⟨y, hy⟩
  refine ⟨z, hz, fun event routeId => ?_⟩
  rw [hrender' y z hy hz, hrender p w hp hw]

/-- For every text that is a template: with another text behind it, it is one just if that text is,
and then both are rendered one behind the other, unless an opening mark begins at the end of the one
and ends at the start of the other. It has no placeholder just if it has no opening mark, and then
its own text is rendered for every event. A placeholder behind it becomes the text of the value, as
it is, whatever marks there are in it. -/
theorem expands_piecewise {a : String} {x : Template} (h : parse a = .ok x) :
    (∀ b : String, ¬(a.toList.getLast? = some '{' ∧ b.toList.head? = some '{') →
      ((∃ z, parse (a ++ b) = .ok z) ↔ ∃ y, parse b = .ok y) ∧
        ∀ y z, parse b = .ok y → parse (a ++ b) = .ok z → ∀ event routeId,
          z.render event routeId = x.render event routeId ++ y.render event routeId) ∧
    (x.isStatic = true ↔ ¬['{', '{'] <:+: a.toList) ∧
    (x.isStatic = true → ∀ event routeId, x.render event routeId = a) ∧
    ∀ (name b : String) (part : TemplatePart) (y : Template), a.toList.getLast? ≠ some '{' →
      parse (placeholderText name) = .ok ⟨placeholderText name, [part]⟩ → parse b = .ok y →
      ∃ z, parse (a ++ placeholderText name ++ b) = .ok z ∧ ∀ event routeId,
        (part = .routeId → z.render event routeId =
          x.render event routeId ++ routeId ++ y.render event routeId) ∧
        ∀ f, part = .field f →
          (∀ text, f.find? event = some (.string text) → z.render event routeId =
            x.render event routeId ++ text ++ y.render event routeId) ∧
          ∀ v, f.find? event = some v → z.render event routeId =
            x.render event routeId ++ v.render ++ y.render event routeId := by
  refine ⟨fun b hb => parse_append h hb, isStatic_iff h, fun hs => render_of_isStatic h hs,
    fun name b part y ha hp hy => ?_⟩
  obtain ⟨z, hz, hrender⟩ := parse_around h hp hy ha
  refine ⟨z, hz, fun event routeId => ?_⟩
  -- A text that is one placeholder renders as its part does.
  have hpart : render ⟨placeholderText name, [part]⟩ event routeId =
      renderPart event routeId part := (rendering_cons part []).trans String.append_empty
  rw [hrender, hpart]
  refine ⟨?_, fun f hf => ?_⟩
  · rintro rfl
    rfl
  · subst hf
    have hvalue : ∀ v, f.find? event = some v →
        renderPart event routeId (.field f) = v.render := by
      intro v hv
      rw [renderPart, hv]
      rfl
    exact ⟨fun text ht => by rw [hvalue _ ht]; rfl, fun v hv => by rw [hvalue v hv]⟩

/-- A text with stray braces around a placeholder. -/
def bracedText : String := "\x7d\x7b/\x7b\x7bpayload.x\x7d\x7d\x7d"

/-- The template that the text is read as. -/
def braced : Template :=
  ⟨bracedText, [.text "\x7d\x7b/", .field ⟨.payload, [.key "x"]⟩, .text "\x7d"]⟩

/-- Braces that stand for themselves. -/
def strayText : String := "\x7d\x7b"

/-- The template of the text, which has no placeholder. -/
def stray : Template := ⟨strayText, [.text strayText]⟩

/-- An event with a placeholder and a lone mark in its data. -/
def markedEvent : Event :=
  ⟨"e", "t", .ofList [("h", "\x7b\x7b")], .object [("x", .string "\x7b\x7broute_id\x7d\x7d")], true⟩

theorem expands_piecewise_braced :
    parse bracedText = .ok braced ∧ braced.isStatic = false ∧ ['{', '{'] <:+: bracedText.toList ∧
      ((∃ z, parse (bracedText ++ strayText) = .ok z) ↔ ∃ y, parse strayText = .ok y) ∧
      ∃ z, parse (bracedText ++ placeholderText "headers.h" ++ strayText) = .ok z ∧
        z.render markedEvent "r" =
          braced.render markedEvent "r" ++ "\x7b\x7b" ++ stray.render markedEvent "r" ∧
        braced.render markedEvent "r" = "\x7d\x7b/\x7b\x7broute_id\x7d\x7d\x7d" := by
  have hparse : parse bracedText = .ok braced := by decide +kernel
  have hstatic : braced.isStatic = false := by decide
  obtain ⟨happend, hmarked, -, hbetween⟩ := expands_piecewise hparse
  have hplain : parse strayText = .ok stray := by decide +kernel
  have hholder : parse (placeholderText "headers.h") =
      .ok ⟨placeholderText "headers.h", [.field ⟨.headers, [.key "h"]⟩]⟩ := by decide +kernel
  obtain ⟨z, hz, hrender⟩ := hbetween "headers.h" strayText _ _ (by decide) hholder hplain
  refine ⟨hparse, hstatic, ?_, (happend strayText (by decide)).1, z, hz, ?_, by decide +kernel⟩
  · by_contra hnone
    exact absurd (hmarked.mpr hnone) (by rw [hstatic]; decide)
  · exact ((hrender markedEvent "r").2 _ rfl).1 _ rfl

end Switchyard.Template
