import Stagewright.Proofs.Variable.Scan

/-!
Looking for references finds the references of the grammar, and tells of each where it stands, how
it is written, its name and its default.
-/

namespace Stagewright.Variable

open Text

section Cuts

variable (text : List Symbol) (n : Nat)

theorem take_inChars :
    (inChars text).take (inChars (text.take n)).length = inChars (text.take n) := by
  have parts : inChars text = inChars (text.take n) ++ inChars (text.drop n) := by
    rw [← inChars_append, List.take_append_drop]
  rw [parts, List.take_left]

theorem drop_inChars :
    (inChars text).drop (inChars (text.take n)).length = inChars (text.drop n) := by
  have parts : inChars text = inChars (text.take n) ++ inChars (text.drop n) := by
    rw [← inChars_append, List.take_append_drop]
  rw [parts, List.drop_left]

end Cuts

namespace Region

variable (text : List Symbol) (r : Region)

/-- The text from the first symbol of a region up to its end. -/
def source : String := ofSymbols ((text.drop r.start).take (r.stop - r.start))

/-- What is told of a region. -/
def reference : Reference where
  name := trim (ofSymbols r.mention.name)
  default := r.mention.default.map fun d => String.ofList (unquote (trimChars (inChars d)))
  source := r.source text
  start := (r.occurrence text).start
  stop := (r.occurrence text).stop

theorem occurrence_source :
    String.ofList (((inChars text).drop (r.occurrence text).start).take
      ((r.occurrence text).stop - (r.occurrence text).start)) = r.source text := by
  have split :
      text.take r.stop = text.take r.start ++ (text.drop r.start).take (r.stop - r.start) := by
    rw [← List.take_add]
    exact congrArg text.take (by have := r.start_lt_stop; omega)
  have rest := drop_inChars (text.drop r.start) (r.stop - r.start)
  simp only [occurrence, drop_inChars, split, inChars_append, List.length_append,
    Nat.add_sub_cancel_left, take_inChars]
  rfl

theorem trimChars_name :
    (trimChars (inChars r.mention.name)).isEmpty = !r.isNamed := by
  have name : (trim (ofSymbols r.mention.name)).toList = trimChars (inChars r.mention.name) := by
    rw [trim, toList_ofSymbols, String.toList_ofList]
  cases blank : trimChars (inChars r.mention.name) with
  | nil =>
    rw [blank] at name
    simp [isNamed, String.toList_eq_nil_iff.mp name]
  | cons c cs =>
    have named : trim (ofSymbols r.mention.name) ≠ "" := by
      intro empty
      simp [empty, blank] at name
    simp [isNamed, named]

theorem occurrence_reference? :
    (r.occurrence text).reference? (inChars text) =
      if r.isNamed then some (r.reference text) else none := by
  have blank := trimChars_name r
  have name :
      String.ofList (trimChars (inChars r.mention.name)) = trim (ofSymbols r.mention.name) := by
    rw [trim, toList_ofSymbols]
  cases named : r.isNamed with
  | false =>
    rw [named] at blank
    exact if_pos blank
  | true =>
    rw [named] at blank
    simp only [Occurrence.reference?, occurrence_source]
    simp only [occurrence, Mention.form, blank, name, Option.map_map]
    rfl

theorem span_reference (within : r.stop ≤ text.length) :
    (r.reference text).span (ofSymbols text) = [r.start, r.stop] := by
  have before := r.start_lt_stop
  simp only [Reference.span, reference, occurrence, toList_ofSymbols, List.map_cons, List.map_nil,
    take_inChars, symbolCount_inChars, List.length_take]
  rw [Nat.min_eq_left within, Nat.min_eq_left (by omega)]

end Region

theorem occurrences_references (text : List Symbol) (regions : List Region) :
    (regions.map (Region.occurrence text)).filterMap (·.reference? (inChars text)) =
      (regions.filter Region.isNamed).map (Region.reference text) := by
  induction regions with
  | nil => rfl
  | cons r rest ih =>
    have here := r.occurrence_reference? text
    cases named : r.isNamed with
    | true =>
      rw [named, if_pos rfl] at here
      rw [List.map_cons, List.filterMap_cons_some here, ih, List.filter_cons_of_pos named,
        List.map_cons]
    | false =>
      have unnamed : ¬r.isNamed = true := by simp [named]
      rw [if_neg unnamed] at here
      rw [List.map_cons, List.filterMap_cons_none here, ih, List.filter_cons_of_neg unnamed]

theorem references_of_scan {text : List Symbol} {regions : List Region}
    (scan : Scan 0 text regions) :
    references (ofSymbols text) = (regions.filter Region.isNamed).map (Region.reference text) := by
  have found : occurrences (inChars text) = regions.map (Region.occurrence text) :=
    scan.occurrences [] rfl
  rw [references, toList_ofSymbols, referencesIn, found, occurrences_references]

/-- What the regions of a text have to be, and what is told of them. -/
structure Recognition (text : List Symbol) (regions : List Region) : Prop where
  scan : Scan 0 text regions
  only : ∀ others, Scan 0 text others → others = regions
  stands : ∀ r ∈ regions, r.mention.WellFormed ∧ r.mention.text <+: text.drop r.start
  nonempty : ∀ r ∈ regions, r.start < r.stop
  ordered : regions.Pairwise fun a b => a.stop ≤ b.start
  covers : ∀ m : Mention, m.WellFormed → ∀ i, m.text <+: text.drop i →
    ∃ r ∈ regions, r.start ≤ i ∧ i < r.stop
  reported : references (ofSymbols text) =
    (regions.filter Region.isNamed).map (Region.reference text)
  span : ∀ r ∈ regions, (r.reference text).span (ofSymbols text) = [r.start, r.stop]
  source : ∀ r ∈ regions, (r.reference text).source =
    ofSymbols ((text.drop r.start).take (r.stop - r.start))
  name : ∀ r ∈ regions, (r.reference text).name = trim (ofSymbols r.mention.name)
  default : ∀ r ∈ regions, (r.reference text).default = none ↔ r.mention.default = none
  hasReferences : hasReferences (ofSymbols text) = true ↔ references (ofSymbols text) ≠ []

/-- The references of the grammar, the leftmost one first and then on from the end of each, are what
is found in a text. -/
theorem references_recognised (text : List Symbol) : ∃ regions, Recognition text regions := by
  obtain ⟨regions, scan⟩ := Scan.exists_regions 0 text
  have stands : ∀ r ∈ regions, r.mention.text <+: text.drop r.start := scan.stands
  refine ⟨regions, ?_⟩
  constructor
  case scan => exact scan
  case only => exact fun others again => scan.unique again
  case stands => exact fun r member => ⟨scan.wellFormed r member, stands r member⟩
  case nonempty => exact fun r _ => r.start_lt_stop
  case ordered => exact scan.ordered
  case covers =>
    intro m wellFormed i begins
    obtain ⟨r, member, inside⟩ := scan.covers wellFormed begins
    exact ⟨r, member, by omega⟩
  case reported => exact references_of_scan scan
  case span =>
    intro r member
    refine r.span_reference text ?_
    have length := (stands r member).length_le
    have nonempty := r.start_lt_stop
    rw [List.length_drop] at length
    unfold Region.stop at nonempty ⊢
    omega
  case source => exact fun r _ => rfl
  case name => exact fun r _ => rfl
  case default => exact fun r _ => Option.map_eq_none_iff
  case hasReferences =>
    rw [hasReferences, Bool.not_eq_true', List.isEmpty_eq_false_iff]

/-- A default must not be empty, a name may hold an opening brace, and a blank name takes up its
place without being told. -/
example : (references "$\x7ba|\x7d$\x7b$\x7bb\x7d\x7d$\x7b \x7d$\x7bc|$\x7bd\x7d").map
    (fun r => (r.source, r.name, r.default)) =
      [("$\x7b$\x7bb\x7d", "$\x7bb", none), ("$\x7bc|$\x7bd\x7d", "c", some "$\x7bd")] := by rfl

end Stagewright.Variable
