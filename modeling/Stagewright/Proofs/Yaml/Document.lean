import Stagewright.Proofs.Yaml.Node
import Stagewright.Proofs.Yaml.Object
import Stagewright.Proofs.Yaml.Scalar
import Stagewright.Proofs.Yaml.Tokens
import Stagewright.Yaml.Document

/-!
Why a document cannot be read. Most that can be wrong with a text shows in its form. What does not
is listed here: each such fault has its place in the text, in a node of it, or in its depth.
-/

namespace Stagewright

/-- Bytes are no text if some of them are left behind the last character. -/
theorem Text.decodeUtf8?_eq_none_iff {data : List UInt8} :
    Text.decodeUtf8? data = none ↔ (Text.decodePrefix data).2 ≠ [] := by
  unfold Text.decodeUtf8?
  rcases Text.decodePrefix data with ⟨cs, rest⟩
  cases rest <;> simp

namespace Yaml

open Attempt

/-- Faults that say that a text is no document. -/
def Fault.isOfForm : Fault → Bool
  | .malformed | .unfinished => true
  | _ => false

/-- Where faults come from that are not of the form of a text. -/
inductive Fault.Cause (source : Source) : Fault → Prop
  /-- The text breaks off. -/
  | breaksOff {f : Fault} (ending : source.ending = some f) : Cause source f
  /-- The text asks for a character by a number that belongs to none. -/
  | character {huge : Bool} (broken : (tokens source).2 = some (.badCharacter huge)) :
    Cause source (.badCharacter huge)
  /-- The text states its version in a number of too many digits. -/
  | version {digits : Nat} (broken : (tokens source).2 = some (.longInteger digits)) :
    Cause source (.longInteger digits)
  | tooDeep : Cause source .tooDeep
  | moment {g : Graph} {n : Node}
    (formed : Graph.ofTokens? (tokens source).1 (tokens source).2 = .ok (some g))
    (member : n ∈ g.nodes) (tagged : n.tag = .moment) : Cause source .momentOfCollection
  /-- The text of a node denotes nothing of the kind that the tag of a node names. -/
  | scalar {g : Graph} {n holder : Node} {index : Nat} {text : String} {f : Fault}
    (formed : Graph.ofTokens? (tokens source).1 (tokens source).2 = .ok (some g))
    (member : n ∈ g.nodes) (held : holder ∈ g.nodes) (written : holder.content = .scalar text)
    (refused : scalarValue n.tag index text = .error f) : Cause source f

namespace Document

variable {source : Source}

/-- A fault of tokens is one of form, or has a cause. -/
theorem cause_of_broken {f : Fault} (broken : (tokens source).2 = some f) :
    f.isOfForm = true ∨ f.Cause source := by
  rcases (tokens_broken broken).1 with lexical | ending
  · cases f with
    | malformed => exact .inl rfl
    | unfinished => exact .inl rfl
    | badCharacter huge => exact .inr (.character broken)
    | longInteger digits => exact .inr (.version broken)
    | _ => exact absurd lexical (by simp [Fault.isLexical])
  · exact .inr (.breaksOff ending)

theorem cause_of_nodes {f : Fault}
    (ofNodes : Fault.OfNodes ((tokens source).2.getD .malformed) f) :
    f.isOfForm = true ∨ f.Cause source := by
  rcases ofNodes with rfl | rfl | same
  · exact .inl rfl
  · exact .inr .tooDeep
  · cases broken : (tokens source).2 with
    | none =>
      rw [broken] at same
      exact .inl (same ▸ rfl)
    | some g =>
      rw [broken] at same
      exact cause_of_broken (broken.trans (congrArg some same.symm))

theorem cause_of_objects {g : Graph} {f : Fault}
    (formed : Graph.ofTokens? (tokens source).1 (tokens source).2 = .ok (some g))
    (ofObjects : f.OfObjects g.nodes) : f.isOfForm = true ∨ f.Cause source := by
  cases ofObjects with
  | form => exact .inl rfl
  | tooDeep => exact .inr .tooDeep
  | moment member tagged => exact .inr (.moment formed member tagged)
  | scalar member held written refused => exact .inr (.scalar formed member held written refused)

/-- Nodes are formed only of a text that does not break off. -/
theorem ending_of_formed {graph : Option Graph}
    (formed : Graph.ofTokens? (tokens source).1 (tokens source).2 = .ok graph) :
    source.ending = none := by
  have ended : .streamEnd ∈ (tokens source).1 :=
    (formed ▸ meets_ofTokens? (tokens source).1 (tokens source).2).of_ok
  cases ending : source.ending with
  | none => rfl
  | some f =>
    have breaksOff : source.ending.isSome := by rw [ending, Option.isSome_some]
    obtain ⟨g, broken⟩ := tokens_broken_of_ending breaksOff
    exact absurd ended (tokens_broken broken).2

/-- A document is read of a text that does not break off, or else its form is at fault, or something
that has a cause. -/
theorem meets_read (source : Source) :
    Meets (fun _ => source.ending = none) (fun f => f.isOfForm = true ∨ f.Cause source)
      (read source) := by
  unfold read
  dsimp only
  cases formed : Graph.ofTokens? (tokens source).1 (tokens source).2 with
  | error f =>
    exact .error (cause_of_nodes (formed ▸ meets_ofTokens? (tokens source).1 _).of_error)
  | ok graph =>
    have whole := ending_of_formed formed
    cases graph with
    | none => exact .ok whole
    | some g =>
      change Meets _ _ (do
        let objects ← g.objects
        return some (Document.mk objects g.root (wholeValues objects g.order)))
      have objects :
          Meets (fun _ => True) (fun f => f.isOfForm = true ∨ f.Cause source) g.objects :=
        (meets_objects g).mono (fun _ => id) fun f => cause_of_objects formed
      exact .bind objects fun _ _ => .pure whole

end Document

namespace Source

/-- What a text breaks off with, if anything. -/
theorem ending_checked (source : Source) :
    source.checked.ending = source.ending ∨ source.checked.ending = some .malformed := by
  unfold checked
  dsimp only
  split
  · exact .inl rfl
  · exact .inr rfl

/-- Bytes that are no text break off, where a character is missing or else before that. -/
theorem ending_ofBytes_of_bad {data : List UInt8} (bad : Text.decodeUtf8? data = none) :
    (ofBytes data).ending.isSome := by
  have rest := Text.decodeUtf8?_eq_none_iff.mp bad
  unfold ofBytes
  dsimp only
  split
  · rename_i whole
    exact absurd whole rest
  · rcases ending_checked _ with same | same
    · rw [same]
      rfl
    · rw [same]
      rfl

/-- Only bytes that are no text break off because of that. -/
theorem bad_of_ending_ofBytes {data : List UInt8}
    (ending : (ofBytes data).ending = some .undecodable) : Text.decodeUtf8? data = none := by
  refine Text.decodeUtf8?_eq_none_iff.mpr fun whole => ?_
  unfold ofBytes at ending
  dsimp only at ending
  rw [whole] at ending
  rcases ending_checked ⟨normalizedBreaks (Text.decodePrefix data).1, none⟩ with same | same
  · exact absurd (same.symm.trans ending) (by simp)
  · exact absurd (same.symm.trans ending) (by simp)

end Source

/-- Only bytes that are no text are refused as such. -/
theorem Fault.Cause.undecodable {data : List UInt8}
    (cause : Fault.undecodable.Cause (.ofBytes data)) : Text.decodeUtf8? data = none := by
  cases cause with
  | breaksOff ending => exact Source.bad_of_ending_ofBytes ending
  | scalar _ _ _ _ refused =>
    have scalar := (refused ▸ denotes_scalarValue _ _ _).of_error
    exact absurd scalar (by simp [Fault.isOfScalar])

end Yaml

end Stagewright
