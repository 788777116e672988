import SelectQuery.ParamStyle
import SelectQuery.Value
import SelectQuery.Proofs.Wording.Clauses

/-!
# Texts that stand alone

A text stands alone if its quotes and parentheses match and no OR is outside of them. Whatever a
literal holds, its text does, and so do placeholders.

* `StandsAlone.append_space`, `StandsAlone.append_comma`, `StandsAlone.append_parenthesized`: texts
  that are put together;
* `standsAlone_of_tame`: texts of characters that occur in numbers;
* `standsAlone_literal`, `standsAlone_placeholder`.
-/

namespace SelectQuery

namespace Wording

def StandsAlone (cs : List Char) : Prop := ∃ i, items? cs = some i ∧ i.isOrFree

theorem standsAlone_iff {cs : List Char} :
    StandsAlone cs ↔ (items? cs).any Items.isOrFree = true := by
  rw [Option.any_eq_true]
  exact Iff.rfl

instance : DecidablePred StandsAlone := fun _ => decidable_of_iff _ standsAlone_iff.symm

namespace StandsAlone

variable {cs ds : List Char}

theorem append_space (hc : StandsAlone cs) (hd : StandsAlone ds) :
    StandsAlone (cs ++ ' ' :: ds) := by
  obtain ⟨i, hi, hif⟩ := hc
  obtain ⟨j, hj, hjf⟩ := hd
  refine ⟨i ++ j, items?_append (by decide) hi (items?_space hj), ?_⟩
  rw [Items.isOrFree_append, hif, hjf]
  rfl

theorem append_comma (hc : StandsAlone cs) (hd : StandsAlone ds) :
    StandsAlone (cs ++ ',' :: ds) := by
  obtain ⟨i, hi, hif⟩ := hc
  obtain ⟨j, hj, hjf⟩ := hd
  have hj := items?_symbol (c := ',') (by decide) hj
  refine ⟨i ++ .atom (.symbol ',') j, items?_append (by decide) hi hj, ?_⟩
  rw [Items.isOrFree_append, hif, Items.isOrFree, hjf]
  rfl

/-- What stands in parentheses only has to match. -/
theorem append_parenthesized (hc : StandsAlone cs) {i : Items} (hd : items? ds = some i) :
    StandsAlone (cs ++ '(' :: (ds ++ [')'])) := by
  obtain ⟨j, hj, hjf⟩ := hc
  refine ⟨j ++ .group i .nil, items?_append (by decide) hj (items?_parenthesized hd), ?_⟩
  rw [Items.isOrFree_append, hjf]
  rfl

end StandsAlone

/-! ## Numbers -/

/-- A character without a meaning of its own, and not one of OR. -/
def Tame (c : Char) : Prop := c ≠ '\'' ∧ c ≠ '(' ∧ c ≠ ')' ∧ c.toUpper ≠ 'O'

instance : DecidablePred Tame := fun c =>
  inferInstanceAs (Decidable (c ≠ '\'' ∧ c ≠ '(' ∧ c ≠ ')' ∧ c.toUpper ≠ 'O'))

theorem toUpper_of_isDigit {c : Char} (h : c.isDigit) : c.toUpper = c := by
  unfold Char.isDigit at h
  unfold Char.toUpper
  rw [dif_neg]
  simp [UInt32.le_iff_toNat_le] at h ⊢
  omega

theorem tame_of_isDigit {c : Char} (h : c.isDigit) : Tame c := by
  have hn : ∀ d : Char, d.isDigit = false → c ≠ d := fun d hd e => by simp [e, hd] at h
  refine ⟨hn _ (by decide), hn _ (by decide), hn _ (by decide), ?_⟩
  rw [toUpper_of_isDigit h]
  exact hn _ (by decide)

theorem logic?_word_ne_or {s : List Char} (h : ∀ c ∈ s, Tame c) :
    (Atom.word s).logic? ≠ some .or := by
  intro he
  have hs := List.find?_some he
  have ho : 'O' ∈ s.map Char.toUpper := by
    rw [of_decide_eq_true hs]
    decide
  obtain ⟨c, hc, hu⟩ := List.mem_map.mp ho
  exact (h c hc).2.2.2 hu

/-- A character that ends a word leaves the word in front. -/
theorem read_word_of_not_isWordChar {s cs : List Char} {c : Char} (h : isWordChar c = false) :
    (Mode.word s).read (c :: cs) = (lexemes (c :: cs)).map (.atom (.word s) :: ·) := by
  rw [Mode.read, lexemes, Mode.read, Option.map_map]
  simp [Mode.step, h, Function.comp_def]

theorem exists_items_of_tame {cs : List Char} (h : ∀ c ∈ cs, Tame c) :
    (∃ i : Items, lexemes cs = some i.lexemes ∧ i.isOrFree) ∧
      ∀ s, (∀ c ∈ s, Tame c) →
        ∃ i : Items, (Mode.word s).read cs = some i.lexemes ∧ i.isOrFree := by
  induction cs with
  | nil =>
    refine ⟨⟨.nil, rfl, rfl⟩, fun s hs => ⟨.atom (.word s) .nil, rfl, ?_⟩⟩
    simp [Items.isOrFree, logic?_word_ne_or hs]
  | cons c cs ih =>
    rw [List.forall_mem_cons] at h
    obtain ⟨⟨i, hi, hif⟩, hw⟩ := ih h.2
    obtain ⟨hq, hl, hr, -⟩ := h.1
    have hc : ∃ i : Items, lexemes (c :: cs) = some i.lexemes ∧ i.isOrFree := by
      have hi : Mode.between.read cs = some i.lexemes := hi
      rw [lexemes, Mode.read, Mode.step, start, if_neg hq, if_neg hl, if_neg hr]
      split
      · exact ⟨i, by simp [hi], hif⟩
      · split
        · obtain ⟨j, hj, hjf⟩ := hw [c] (by simpa using h.1)
          exact ⟨j, by simp [hj], hjf⟩
        · exact ⟨.atom (.symbol c) i, by simp [hi, Items.lexemes],
            by simpa [Items.isOrFree, Atom.logic?] using hif⟩
    refine ⟨hc, fun s hs => ?_⟩
    cases hwc : isWordChar c with
    | true =>
      obtain ⟨j, hj, hjf⟩ := hw (s ++ [c]) (by simpa [or_imp, forall_and] using ⟨hs, h.1⟩)
      exact ⟨j, by simp [Mode.read, Mode.step, hwc, hj], hjf⟩
    | false =>
      obtain ⟨j, hj, hjf⟩ := hc
      refine ⟨.atom (.word s) j, ?_, ?_⟩
      · rw [read_word_of_not_isWordChar hwc, hj]
        rfl
      · simp [Items.isOrFree, logic?_word_ne_or hs, hjf]

/-- **A text of tame characters stands alone.** -/
theorem standsAlone_of_tame {cs : List Char} (h : ∀ c ∈ cs, Tame c) : StandsAlone cs := by
  obtain ⟨i, hi, hif⟩ := (exists_items_of_tame h).1
  exact ⟨i, items?_eq_some_iff.mpr hi, hif⟩

theorem standsAlone_write (s : String) : StandsAlone (Text.Quoted.write s).toList :=
  ⟨.atom (.quoted s.toList) .nil, items?_eq_some_iff.mpr (lexemes_write s), rfl⟩

/-! ## Literals and placeholders -/

/-- A text of tame characters. -/
def IsTame (s : String) : Prop := ∀ c ∈ s.toList, Tame c

instance : DecidablePred IsTame := fun s => List.decidableBAll Tame s.toList

theorem isTame_append {s t : String} (hs : IsTame s) (ht : IsTame t) : IsTame (s ++ t) := by
  intro c hc
  rw [String.toList_append, List.mem_append] at hc
  exact hc.elim (hs c) (ht c)

theorem isTame_ofList {cs : List Char} (h : ∀ c ∈ cs, Tame c) : IsTame (String.ofList cs) := by
  rwa [IsTame, String.toList_ofList]

theorem tame_of_mem_toDigits {n : Nat} : ∀ c ∈ Nat.toDigits 10 n, Tame c := fun _ hc =>
  tame_of_isDigit (Nat.isDigit_of_mem_toDigits (by decide) (by decide) hc)

theorem isTame_nat (n : Nat) : IsTame (toString n) := by
  rw [Nat.toString_eq_repr, Nat.repr_eq_ofList_toDigits]
  exact isTame_ofList tame_of_mem_toDigits

theorem isTame_int (n : Int) : IsTame (toString n) := by
  cases n with
  | ofNat n => exact isTame_nat n
  | negSucc n => exact isTame_append (s := "-") (by decide) (isTame_nat (n + 1))

theorem isTame_zeros (n : Nat) : IsTame (Decimal.Notation.zeros n) := by
  apply isTame_ofList
  intro c hc
  rw [List.eq_of_mem_replicate hc]
  decide

theorem isTame_writePlaces {n : Decimal.Notation} (hn : IsTame n.wholeMark) {digits : List Char}
    (hd : ∀ c ∈ digits, Tame c) (e : Int) : IsTame (n.writePlaces digits e) := by
  have htake : ∀ k, IsTame (String.ofList (digits.take k)) := fun k =>
    isTame_ofList fun c hc => hd c (List.mem_of_mem_take hc)
  have hdrop : ∀ k, IsTame (String.ofList (digits.drop k)) := fun k =>
    isTame_ofList fun c hc => hd c (List.mem_of_mem_drop hc)
  unfold Decimal.Notation.writePlaces
  split
  · exact isTame_append (isTame_append (isTame_ofList hd) (isTame_zeros _)) hn
  · simp only
    split
    · exact isTame_append (isTame_append (htake _) (by decide)) (hdrop _)
    · exact isTame_append (isTame_append (by decide) (isTame_zeros _)) (isTame_ofList hd)

theorem isTame_writeScientific {digits : List Char} (hd : ∀ c ∈ digits, Tame c) (e : Int) :
    IsTame (Decimal.Notation.writeScientific digits e) := by
  have htake : IsTame (String.ofList (digits.take 1)) :=
    isTame_ofList fun c hc => hd c (List.mem_of_mem_take hc)
  have hdrop : IsTame (String.ofList (digits.drop 1)) :=
    isTame_ofList fun c hc => hd c (List.mem_of_mem_drop hc)
  have hfrac : IsTame (if digits.length ≤ 1 then "" else "." ++ String.ofList (digits.drop 1)) := by
    split
    · decide
    · exact isTame_append (by decide) hdrop
  exact isTame_append (isTame_append (isTame_append htake hfrac) (by decide)) (isTame_int e)

theorem isTame_binary64 (x : Binary64) : IsTame (x.write Binary64.literalNotation) := by
  unfold Binary64.write
  apply isTame_append
  · split <;> decide
  · split
    · decide
    · unfold Decimal.Notation.write
      simp only
      split
      · exact isTame_writePlaces (by decide) tame_of_mem_toDigits _
      · exact isTame_writeScientific tame_of_mem_toDigits _

/-- **A literal stands alone.** -/
theorem standsAlone_literal {v : Value} {s : String} (h : v.literal? = some s) :
    StandsAlone s.toList := by
  cases v with
  | null =>
    obtain rfl := Option.some.inj h
    decide
  | bool b =>
    obtain rfl := Option.some.inj h
    cases b <;> decide
  | int n =>
    obtain rfl := Option.some.inj h
    exact standsAlone_of_tame (isTame_int n.toInt)
  | float x =>
    rw [Value.literal?, Binary64.literal?] at h
    split at h
    · obtain rfl := Option.some.inj h
      exact standsAlone_of_tame (isTame_binary64 x)
    · cases h
  | text s =>
    obtain rfl := Option.some.inj h
    exact standsAlone_write s

theorem standsAlone_placeholder (style : ParamStyle) (n : Nat) :
    StandsAlone (style.placeholder n).toList := by
  apply standsAlone_of_tame
  have hb : IsTame ("\x7b" ++ toString n ++ "\x7d") :=
    isTame_append (isTame_append (by decide) (isTame_nat n)) (by decide)
  cases style with
  | indexed | inline => exact hb
  | atP => exact isTame_append (by decide) (isTame_nat n)
  | dollar => exact isTame_append (by decide) (isTame_nat (n + 1))
  | question => exact (by decide : IsTame "?")

end Wording

end SelectQuery
