import SelectQuery.Proofs.Containment
import SelectQuery.Proofs.StyleAgreement

/-!
# Lists of quoted texts

A list of texts that is written out is read back text by text, whatever quotes, commas and
parentheses are in the texts.

* `Text.Quoted.readTexts`: reads literals with single commas between them, up to the parenthesis
  that closes the list;
* `Text.Quoted.readTexts_write`: what it finds in a list of written texts;
* `text_literals_read_back`: the same for the test for containment, and for single literals.
-/

namespace SelectQuery

namespace Text.Quoted

theorem length_lt_of_readBody {cs s rest : List Char} (h : readBody cs = some (s, rest)) :
    rest.length < cs.length := by
  fun_induction readBody cs generalizing s with
  | case1 => cases h
  | case2 cs ih =>
    obtain ⟨⟨t, r⟩, ht, he⟩ := Option.map_eq_some_iff.mp h
    obtain ⟨-, rfl⟩ := Prod.mk.inj he
    have := ih ht
    simp only [List.length_cons]
    omega
  | case3 cs =>
    cases h
    simp
  | case4 c cs _ _ ih =>
    obtain ⟨⟨t, r⟩, ht, he⟩ := Option.map_eq_some_iff.mp h
    obtain ⟨-, rfl⟩ := Prod.mk.inj he
    have := ih ht
    simp only [List.length_cons]
    omega

theorem length_lt_of_read {cs s rest : List Char} (h : read cs = some (s, rest)) :
    rest.length < cs.length := by
  unfold read at h
  split at h
  · have := length_lt_of_readBody h
    simp only [List.length_cons]
    omega
  · cases h

/-- Reads a list behind its opening parenthesis: the contents of the literals, and what follows the
closing one. -/
def readTexts (cs : List Char) : Option (List (List Char) × List Char) :=
  match h : read cs with
  | some (s, ',' :: ds) =>
    have : ds.length < cs.length := Nat.lt_of_succ_lt (length_lt_of_read h)
    (readTexts ds).map fun (ss, rest) => (s :: ss, rest)
  | some (s, ')' :: rest) => some ([s], rest)
  | _ => none
termination_by cs.length

theorem readTexts_of_comma {cs s ds : List Char} (h : read cs = some (s, ',' :: ds)) :
    readTexts cs = (readTexts ds).map fun (ss, rest) => (s :: ss, rest) := by
  rw [readTexts]
  split
  · next h' =>
    rw [h] at h'
    cases h'
    rfl
  · next h' =>
    rw [h] at h'
    cases h'
  · next hne _ => exact absurd h (hne s ds)

theorem readTexts_of_rparen {cs s rest : List Char} (h : read cs = some (s, ')' :: rest)) :
    readTexts cs = some ([s], rest) := by
  rw [readTexts]
  split
  · next h' =>
    rw [h] at h'
    cases h'
  · next h' =>
    rw [h] at h'
    cases h'
    rfl
  · next hne => exact absurd h (hne s rest)

/-- **Written texts are read back**, and reading stops at the closing parenthesis. -/
theorem readTexts_write (s : String) (ss : List String) (rest : List Char) :
    readTexts ((",".intercalate ((s :: ss).map write) ++ ")").toList ++ rest) =
      some ((s :: ss).map String.toList, rest) := by
  induction ss generalizing s with
  | nil =>
    have hr := read_write s (')' :: rest) (by simp)
    simpa using readTexts_of_rparen hr
  | cons t ts ih =>
    have hr := read_write s
      (',' :: ((",".intercalate ((t :: ts).map write) ++ ")").toList ++ rest)) (by simp)
    have hl := readTexts_of_comma hr
    rw [ih t] at hl
    simpa [String.intercalate_cons_cons] using hl

theorem write_injective {s t : String} (h : write s = write t) : s = t := by
  have hs := read_write s [] nofun
  rw [h, read_write t [] nofun] at hs
  exact String.toList_inj.mp (Prod.mk.inj (Option.some.inj hs)).1.symm

end Text.Quoted

namespace Predicate

variable (f : Field) (op : Containment)

/-- **A test for containment with its values written out**, if all of them have a literal form. -/
theorem fragment_membership_inline {vs : List Value} (h : ∀ v ∈ vs, v.literal? ≠ none)
    (next : Nat) :
    (term (membership f op vs)).fragment .inline next =
      .ok ⟨listTokens f op (vs.map fun v => .literal (v.literal?.getD "")), []⟩ := by
  have hw : ∀ o ∈ Draft.literals ((membership f op vs).draft 0), o.value.literal? ≠ none := by
    intro o ho
    rw [literals_membership] at ho
    have hv := List.mem_map_of_mem (f := Literal.value) ho
    rw [values_listLiterals] at hv
    exact h _ hv
  have hm : (listLiterals (membership f op vs).template 0 1 vs).map Literal.inlined =
      vs.map fun v => .literal (v.literal?.getD "") := by
    conv_rhs => rw [← values_listLiterals (membership f op vs).template 0 1 vs, List.map_map]
    rfl
  have hfill : (term (membership f op vs)).fragment .inline next =
      Draft.inline ((membership f op vs).draft 0) := Term.fragment_eq_fill _ 0 .inline next
  rcases Draft.inline_cases ((membership f op vs).draft 0) with ⟨o, ho, -⟩ | ⟨-, he⟩
  · have hn := List.find?_some ho
    exact absurd (Option.isNone_iff_eq_none.mp hn) (hw o (List.mem_of_find?_eq_some ho))
  · rw [hfill, he, spell_membership, hm]

/-- The text of a list of texts that are written out. -/
theorem render_membership_texts {l : Layout} (hl : l.paramStyle = .inline) (ss : List String) :
    (term (membership f op (ss.map .text))).render l =
      .ok ⟨f.text ++ " " ++ op.sql ++ " (" ++
        (",".intercalate (ss.map Text.Quoted.write) ++ ")"), []⟩ := by
  have hw : ∀ v ∈ ss.map Value.text, v.literal? ≠ none := by
    intro v hv
    obtain ⟨s, -, rfl⟩ := List.mem_map.mp hv
    exact nofun
  have ht : ((ss.map Value.text).map fun v => Token.literal (v.literal?.getD "")).map
      (Token.text l) = ss.map Text.Quoted.write := by
    rw [List.map_map, List.map_map]
    rfl
  rw [render, hl, fragment_membership_inline f op hw 0, Except.map, Fragment.rendered,
    textOf_listTokens, ht]
  simp only [String.append_assoc]

end Predicate

open Text.Quoted (read readTexts) in
/-- **Nothing escapes from a text literal.** The test for containment with texts that are written
out is the field, the operator and a list in parentheses, and reading the list gives the texts back
and stops at the parenthesis that closes it, whatever follows. One literal is read back up to its
own end whenever no quote follows, so different texts have different literals. -/
theorem text_literals_read_back :
    (∀ (l : Layout) (f : Field) (op : Containment) (ss : List String), l.paramStyle = .inline →
      ss ≠ [] → ∃ p list, Predicate.contains f op (ss.map .text) = .ok p ∧
        p.render l = .ok ⟨f.text ++ " " ++ op.sql ++ " (" ++ list, []⟩ ∧
        ∀ rest, readTexts (list.toList ++ rest) = some (ss.map String.toList, rest)) ∧
    (∀ s : String, ∃ literal, (Value.text s).literal? = some literal ∧
      ∀ rest, rest.head? ≠ some '\'' → read (literal.toList ++ rest) = some (s.toList, rest)) ∧
    ∀ s t : String, (Value.text s).literal? = (Value.text t).literal? → s = t := by
  refine ⟨?_, ?_, ?_⟩
  · intro l f op ss hl hne
    obtain ⟨s, ss, rfl⟩ := List.exists_cons_of_ne_nil hne
    refine ⟨_, _, Predicate.contains_of_ne_nil (by simp),
      Predicate.render_membership_texts f op hl (s :: ss), ?_⟩
    exact Text.Quoted.readTexts_write s ss
  · intro s
    exact ⟨_, rfl, Text.Quoted.read_write s⟩
  · intro s t h
    exact Text.Quoted.write_injective (Option.some.inj h)

/-- Texts that are made of quotes, commas and parentheses. -/
theorem text_literals_read_back_quotes :
    (∃ p list, Predicate.contains (.id .people) .isIn (["'", "','", ") OR ('", ""].map .text) =
        .ok p ∧
      p.render { paramStyle := .inline } = .ok ⟨"pe.id IN (" ++ list, []⟩ ∧
      Text.Quoted.readTexts (list.toList ++ [')']) =
        some (["'", "','", ") OR ('", ""].map String.toList, [')'])) ∧
    ∃ literal, (Value.text "it's'").literal? = some literal ∧
      Text.Quoted.read (literal.toList ++ [',', '\'']) = some ("it's'".toList, [',', '\'']) := by
  obtain ⟨hlist, hsingle, -⟩ := text_literals_read_back
  constructor
  · obtain ⟨p, list, hc, hr, hread⟩ :=
      hlist { paramStyle := .inline } (.id .people) .isIn ["'", "','", ") OR ('", ""] rfl nofun
    exact ⟨p, list, hc, hr, hread [')']⟩
  · obtain ⟨literal, hl, hread⟩ := hsingle "it's'"
    exact ⟨literal, hl, hread [',', '\''] (by decide)⟩

end SelectQuery
