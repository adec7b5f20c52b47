import Stagewright.Proofs.Variable.Recognition

/-!
What is left of a default when the quotes around it are taken away. A pair of equal quotes goes, and
so does a quote that stands alone, since it is the first character and the last one; nothing else is
lost.
-/

namespace Stagewright.Variable

open Text

/-- The quotes that can stand around a default. -/
def quotes : List Char := ['"', '\'']

section Ends

variable {cs : List Char} {q : Char}

theorem unquote_of_ends (quote : q ∈ quotes) (first : cs.head? = some q)
    (last : cs.getLast? = some q) : unquote cs = (cs.drop 1).dropLast := by
  have ends : (cs.head? = some '"' ∧ cs.getLast? = some '"') ∨
      (cs.head? = some '\'' ∧ cs.getLast? = some '\'') := by
    rcases List.mem_cons.mp quote with rfl | other
    · exact .inl ⟨first, last⟩
    · obtain rfl := List.mem_singleton.mp other
      exact .inr ⟨first, last⟩
  exact if_pos ends

theorem unquote_of_no_ends (apart : ∀ q ∈ quotes, cs.head? = some q → cs.getLast? ≠ some q) :
    unquote cs = cs := by
  refine if_neg ?_
  rintro (⟨first, last⟩ | ⟨first, last⟩)
  · exact apart _ (by decide) first last
  · exact apart _ (by decide) first last

theorem unquote_paired (quote : q ∈ quotes) (inner : List Char) :
    unquote (q :: inner ++ [q]) = inner := by
  rw [unquote_of_ends quote rfl List.getLast?_concat]
  exact List.dropLast_concat

theorem unquote_lone (quote : q ∈ quotes) : unquote [q] = [] := unquote_of_ends quote rfl rfl

/-- Characters that begin and end with the same one are that one alone, or stand in a pair of it. -/
theorem lone_or_paired (first : cs.head? = some q) (last : cs.getLast? = some q) :
    cs = [q] ∨ ∃ inner, cs = q :: inner ++ [q] := by
  obtain ⟨front, rfl⟩ := List.getLast?_eq_some_iff.mp last
  cases front with
  | nil => exact .inl rfl
  | cons c inner =>
    obtain rfl : c = q := Option.some.inj first
    exact .inr ⟨inner, rfl⟩

end Ends

/-- What a default is, beside the text that is written for it. -/
structure Unquoted (text default : String) : Prop where
  kept : (∀ q ∈ quotes, text ≠ String.singleton q) →
    text = default ∨ ∃ q ∈ quotes, text = String.singleton q ++ default ++ String.singleton q
  paired : ∀ q ∈ quotes, ∀ inner, text = String.singleton q ++ inner ++ String.singleton q →
    default = inner
  lone : ∀ q ∈ quotes, text = String.singleton q → default = ""

theorem toList_paired (q : Char) (inner : String) :
    (String.singleton q ++ inner ++ String.singleton q).toList = q :: inner.toList ++ [q] := by
  simp

theorem unquoted_unquote (text : String) : Unquoted text (String.ofList (unquote text.toList)) := by
  constructor
  case kept =>
    intro notLone
    by_cases ends : ∃ q ∈ quotes, text.toList.head? = some q ∧ text.toList.getLast? = some q
    · obtain ⟨q, quote, first, last⟩ := ends
      rcases lone_or_paired first last with lone | ⟨inner, pair⟩
      · exact absurd (String.toList_inj.mp (lone.trans (by simp))) (notLone q quote)
      · refine .inr ⟨q, quote, String.toList_inj.mp ?_⟩
        rw [toList_paired, pair, unquote_paired quote, String.toList_ofList]
    · have apart : ∀ q ∈ quotes, text.toList.head? = some q → text.toList.getLast? ≠ some q :=
        fun q quote first last => ends ⟨q, quote, first, last⟩
      rw [unquote_of_no_ends apart, String.ofList_toList]
      exact .inl rfl
  case paired =>
    rintro q quote inner rfl
    rw [toList_paired, unquote_paired quote, String.ofList_toList]
  case lone =>
    rintro q quote rfl
    rw [String.toList_singleton, unquote_lone quote]

/-- In every text, the default of a reference is what is written for it without the white space
around, or that without one pair of equal quotes at its ends, whenever there is such a pair. Only of
a lone quote is nothing left. -/
theorem defaults_unquoted (text : List Symbol) :
    ∃ regions, Scan 0 text regions ∧
      references (ofSymbols text) =
        (regions.filter Region.isNamed).map (Region.reference text) ∧
      ∀ r ∈ regions, ∀ d, r.mention.default = some d →
        ∃ default, (r.reference text).default = some default ∧
          Unquoted (trim (ofSymbols d)) default := by
  obtain ⟨regions, scan⟩ := Scan.exists_regions 0 text
  refine ⟨regions, scan, references_of_scan scan, fun r _ d written => ?_⟩
  have trimmed : (trim (ofSymbols d)).toList = trimChars (inChars d) := by
    rw [trim, toList_ofSymbols, String.toList_ofList]
  refine ⟨_, ?_, unquoted_unquote (trim (ofSymbols d))⟩
  rw [Region.reference, written, Option.map_some, trimmed]

/-- A reference whose default is a lone quote. -/
def loneQuoted : Region := ⟨0, ⟨[.char 'x'], some [.char '"']⟩⟩

/-- The lone quote is neither kept nor one of a pair. -/
theorem lone_quote_lost :
    Scan 0 loneQuoted.mention.text [loneQuoted] ∧
      (references (ofSymbols loneQuoted.mention.text)).map (·.default) = [some ""] ∧
      ¬(trim (ofSymbols [.char '"']) = "" ∨ ∃ q ∈ quotes,
        trim (ofSymbols [.char '"']) = String.singleton q ++ "" ++ String.singleton q) := by
  have wellFormed : loneQuoted.mention.WellFormed := by
    constructor <;> simp [loneQuoted]
  have written : trim (ofSymbols [.char '"']) = "\"" := rfl
  refine ⟨?scan, by decide +kernel, ?lost⟩
  case scan =>
    rw [← List.append_nil loneQuoted.mention.text]
    exact .take wellFormed .done
  case lost =>
    rw [written]
    rintro (kept | ⟨q, -, pair⟩)
    · exact absurd kept (by decide)
    · have chars := congrArg String.toList pair
      rw [toList_paired] at chars
      simp at chars

end Stagewright.Variable
