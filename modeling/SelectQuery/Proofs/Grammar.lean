import Mathlib.Data.List.TakeWhile
import SelectQuery.Predicate

/-!
# The grammar of templates

A template is a run of marks: characters that are no braces, doubled braces, and slots with their
digits between braces.

* `Mark.append_inj`, `Spelling.unique`: no text is a run of marks in two ways;
* `spelling_or_offence`: a text is a run of marks, or such a run up to something that is no mark;
* `eq_ofPieces_iff`: the parts of a template are told by the characters and slots in them;
* `template_grammar`: just the runs of marks whose slots have arguments are accepted, and the
  leftmost offence is reported before any slot that has no argument.
-/

namespace SelectQuery.Template

/-! ## Marks -/

def Piece.slot? : Piece → Option Nat
  | slot n => some n
  | char _ => none

/-- What the text of a template is made of. -/
inductive Mark where
  | plain (c : Char)
  /-- Two opening braces, for one. -/
  | opening
  /-- Two closing braces, for one. -/
  | closing
  | slot (digits : List Char)
  deriving DecidableEq, Repr

namespace Mark

def spelling : Mark → List Char
  | plain c => [c]
  | opening => ['{', '{']
  | closing => ['}', '}']
  | slot digits => '{' :: (digits ++ ['}'])

/-- The number of a slot. Zeros in front do not count. -/
def number (digits : List Char) : Nat := Nat.ofDigitChars 10 digits 0

def Valid : Mark → Prop
  | plain c => c ≠ '{' ∧ c ≠ '}'
  | opening | closing => True
  | slot digits => digits ≠ [] ∧ (∀ d ∈ digits, d.isDigit = true) ∧ number digits < slotLimit

/-- What a mark stands for. -/
def piece : Mark → Piece
  | plain c => .char c
  | opening => .char '{'
  | closing => .char '}'
  | slot digits => .slot (number digits)

def slot? (m : Mark) : Option Nat := m.piece.slot?

end Mark

/-- A text is a run of marks. -/
structure Spelling (cs : List Char) (ms : List Mark) : Prop where
  valid : ∀ m ∈ ms, m.Valid
  eq : cs = ms.flatMap Mark.spelling

theorem Spelling.nil : Spelling [] [] := ⟨nofun, rfl⟩

theorem Spelling.cons {m : Mark} {cs : List Char} {ms : List Mark} (hm : m.Valid)
    (h : Spelling cs ms) : Spelling (m.spelling ++ cs) (m :: ms) := by
  constructor
  · intro n hn
    rcases List.mem_cons.mp hn with rfl | hn
    · exact hm
    · exact h.valid n hn
  · rw [List.flatMap_cons, ← h.eq]

/-! ## Digits -/

theorem ne_brace_of_isDigit {d : Char} (h : d.isDigit = true) : d ≠ '{' ∧ d ≠ '}' := by
  constructor
  · rintro rfl
    exact absurd h (by decide)
  · rintro rfl
    exact absurd h (by decide)

/-- Digits with a closing brace behind them do not begin with an opening one. -/
theorem head?_digits_ne {digits : List Char} (hd : ∀ d ∈ digits, d.isDigit = true)
    (rest : List Char) : (digits ++ '}' :: rest).head? ≠ some '{' := by
  cases digits with
  | nil => simp
  | cons d ds =>
    have h := (ne_brace_of_isDigit (hd d (List.mem_cons_self ..))).1
    simpa using h

/-- The digits up to a closing brace. -/
theorem digits_append_inj {ds es s t : List Char} (hd : ∀ d ∈ ds, d.isDigit = true)
    (he : ∀ e ∈ es, e.isDigit = true) (h : ds ++ '}' :: s = es ++ '}' :: t) : ds = es ∧ s = t := by
  have hn : ¬ Char.isDigit '}' = true := by decide
  have ht := congrArg (List.takeWhile Char.isDigit) h
  rw [List.takeWhile_append_of_pos hd, List.takeWhile_append_of_pos he,
    List.takeWhile_cons_of_neg hn, List.takeWhile_cons_of_neg hn, List.append_nil,
    List.append_nil] at ht
  subst ht
  have hs := List.append_cancel_left h
  exact ⟨rfl, (List.cons.inj hs).2⟩

/-- A text from the first character on that is no digit. -/
theorem exists_digits_append (cs : List Char) :
    ∃ digits rest, cs = digits ++ rest ∧ (∀ d ∈ digits, d.isDigit = true) ∧
      ∀ c ∈ rest.head?, c.isDigit = false := by
  refine ⟨cs.takeWhile Char.isDigit, cs.dropWhile Char.isDigit,
    List.takeWhile_append_dropWhile.symm, fun d hd => List.mem_takeWhile_imp hd, ?_⟩
  intro c hc
  have h := List.head?_dropWhile_not Char.isDigit cs
  rw [Option.mem_def.mp hc] at h
  exact h

/-! ## A run of marks in one way -/

/-- **No mark is the beginning of another one.** -/
theorem Mark.append_inj {m n : Mark} (hm : m.Valid) (hn : n.Valid) {s t : List Char}
    (h : m.spelling ++ s = n.spelling ++ t) : m = n ∧ s = t := by
  have hslot : ∀ {digits u v}, (slot digits).Valid → digits ++ '}' :: u ≠ '{' :: v := by
    intro digits u v hv he
    have hh := head?_digits_ne hv.2.1 u
    rw [he] at hh
    exact hh rfl
  cases m with
  | plain c =>
    cases n with
    | plain d =>
      obtain ⟨rfl, hs⟩ := List.cons.inj h
      exact ⟨rfl, hs⟩
    | opening | slot => exact absurd (List.cons.inj h).1 hm.1
    | closing => exact absurd (List.cons.inj h).1 hm.2
  | opening =>
    cases n with
    | plain d => exact absurd (List.cons.inj h).1.symm hn.1
    | opening => exact ⟨rfl, (List.cons.inj (List.cons.inj h).2).2⟩
    | closing => exact absurd (List.cons.inj h).1 (by decide)
    | slot digits =>
      have he : '{' :: s = digits ++ '}' :: t := by simpa [spelling] using h
      exact absurd he.symm (hslot hn)
  | closing =>
    cases n with
    | plain d => exact absurd (List.cons.inj h).1.symm hn.2
    | opening | slot => exact absurd (List.cons.inj h).1 (by decide)
    | closing => exact ⟨rfl, (List.cons.inj (List.cons.inj h).2).2⟩
  | slot digits =>
    cases n with
    | plain d => exact absurd (List.cons.inj h).1.symm hn.1
    | opening =>
      have he : digits ++ '}' :: s = '{' :: t := by simpa [spelling] using h
      exact absurd he (hslot hm)
    | closing => exact absurd (List.cons.inj h).1 (by decide)
    | slot digits' =>
      have he : digits ++ '}' :: s = digits' ++ '}' :: t := by simpa [spelling] using h
      obtain ⟨rfl, hs⟩ := digits_append_inj hm.2.1 hn.2.1 he
      exact ⟨rfl, hs⟩

theorem Mark.spelling_ne_nil (m : Mark) : m.spelling ≠ [] := by
  cases m <;> simp [spelling]

theorem Spelling.unique {cs : List Char} {ms ns : List Mark} (h : Spelling cs ms)
    (h' : Spelling cs ns) : ms = ns := by
  induction ms generalizing cs ns with
  | nil =>
    cases ns with
    | nil => rfl
    | cons n ns =>
      have he := h'.eq
      rw [h.eq, List.flatMap_cons] at he
      exact absurd (List.append_eq_nil_iff.mp he.symm).1 n.spelling_ne_nil
  | cons m ms ih =>
    cases ns with
    | nil =>
      have he := h.eq
      rw [h'.eq, List.flatMap_cons] at he
      exact absurd (List.append_eq_nil_iff.mp he.symm).1 m.spelling_ne_nil
    | cons n ns =>
      have he : m.spelling ++ ms.flatMap Mark.spelling = n.spelling ++ ns.flatMap Mark.spelling :=
        h.eq.symm.trans h'.eq
      obtain ⟨rfl, ht⟩ := Mark.append_inj (h.valid m (List.mem_cons_self ..))
        (h'.valid n (List.mem_cons_self ..)) he
      have hms : Spelling (ms.flatMap Mark.spelling) ms :=
        ⟨fun k hk => h.valid k (List.mem_cons_of_mem _ hk), rfl⟩
      have hns : Spelling (ms.flatMap Mark.spelling) ns :=
        ⟨fun k hk => h'.valid k (List.mem_cons_of_mem _ hk), ht⟩
      rw [ih hms hns]

/-! ## Offences -/

/-- A text that begins with something that is no mark, and what is wrong there. -/
inductive Offence : List Char → Fault → Prop
  | unmatched {cs : List Char} (h : cs.head? ≠ some '}') : Offence ('}' :: cs) .unmatchedBrace
  | empty (cs : List Char) : Offence ('{' :: '}' :: cs) .emptySlot
  /-- Behind the digits there is neither a further digit nor the closing brace. -/
  | unclosed {digits cs : List Char} (hd : ∀ d ∈ digits, d.isDigit = true)
      (hcs : ∀ c ∈ cs.head?, c.isDigit = false ∧ c ≠ '}')
      (hb : (digits ++ cs).head? ≠ some '{') : Offence ('{' :: (digits ++ cs)) .unclosedSlot
  | tooLarge {digits : List Char} (hd : ∀ d ∈ digits, d.isDigit = true)
      (hl : slotLimit ≤ Mark.number digits) (cs : List Char) :
      Offence ('{' :: (digits ++ '}' :: cs)) (.slotTooLarge (String.ofList digits))

/-- What stands behind an opening brace that is not doubled. -/
theorem slot_or_offence {cs : List Char} (h : cs.head? ≠ some '{') :
    (∃ digits rest, (Mark.slot digits).Valid ∧ cs = digits ++ '}' :: rest) ∨
      ∃ fault, Offence ('{' :: cs) fault := by
  obtain ⟨digits, rest, rfl, hd, hr⟩ := exists_digits_append cs
  cases rest with
  | nil => exact Or.inr ⟨_, .unclosed hd nofun h⟩
  | cons c rest =>
    by_cases hc : c = '}'
    · subst hc
      by_cases hne : digits = []
      · subst hne
        exact Or.inr ⟨_, .empty rest⟩
      · by_cases hl : Mark.number digits < slotLimit
        · exact Or.inl ⟨digits, rest, ⟨hne, hd, hl⟩, rfl⟩
        · exact Or.inr ⟨_, .tooLarge hd (Nat.le_of_not_lt hl) rest⟩
    · have hcs : ∀ e ∈ (c :: rest).head?, e.isDigit = false ∧ e ≠ '}' := by
        intro e he
        obtain rfl := Option.some.inj he
        exact ⟨hr c rfl, hc⟩
      exact Or.inr ⟨_, .unclosed hd hcs h⟩

/-- What a text begins with. -/
theorem mark_or_offence (c : Char) (cs : List Char) :
    (∃ (m : Mark) (rest : List Char), m.Valid ∧ c :: cs = m.spelling ++ rest) ∨
      ∃ fault, Offence (c :: cs) fault := by
  by_cases ho : c = '{'
  · subst ho
    by_cases h : cs.head? = some '{'
    · obtain ⟨rest, rfl⟩ := List.head?_eq_some_iff.mp h
      exact Or.inl ⟨.opening, rest, trivial, rfl⟩
    · rcases slot_or_offence h with ⟨digits, rest, hv, rfl⟩ | hf
      · exact Or.inl ⟨.slot digits, rest, hv, by simp [Mark.spelling]⟩
      · exact Or.inr hf
  · by_cases hc : c = '}'
    · subst hc
      by_cases h : cs.head? = some '}'
      · obtain ⟨rest, rfl⟩ := List.head?_eq_some_iff.mp h
        exact Or.inl ⟨.closing, rest, trivial, rfl⟩
      · exact Or.inr ⟨_, .unmatched h⟩
    · exact Or.inl ⟨.plain c, cs, ⟨ho, hc⟩, rfl⟩

/-- **A text is a run of marks, or one up to an offence.** -/
theorem spelling_or_offence (cs : List Char) :
    (∃ ms, Spelling cs ms) ∨
      ∃ front rest ms fault, cs = front ++ rest ∧ Spelling front ms ∧ Offence rest fault := by
  induction hl : cs.length using Nat.strongRecOn generalizing cs with
  | ind n ih =>
    subst hl
    cases cs with
    | nil => exact Or.inl ⟨[], .nil⟩
    | cons c cs =>
      rcases mark_or_offence c cs with ⟨m, rest, hm, he⟩ | ⟨fault, hf⟩
      · have hlt : rest.length < (c :: cs).length := by
          have hp := List.length_pos_iff.mpr m.spelling_ne_nil
          rw [he, List.length_append]
          omega
        rw [he]
        rcases ih _ hlt rest rfl with ⟨ms, hs⟩ | ⟨front, tail, ms, fault, rfl, hs, hf⟩
        · exact Or.inl ⟨m :: ms, .cons hm hs⟩
        · exact Or.inr ⟨m.spelling ++ front, tail, m :: ms, fault,
            (List.append_assoc ..).symm, .cons hm hs, hf⟩
      · exact Or.inr ⟨[], c :: cs, [], fault, rfl, .nil, hf⟩

/-! ## Reading -/

/-- Behind an opening brace that is not doubled a slot is read. -/
theorem pieces_brace {cs : List Char} (h : cs.head? ≠ some '{') :
    pieces none ('{' :: cs) = pieces (some []) cs :=
  pieces.eq_4 cs fun _ he => h (he ▸ rfl)

theorem pieces_digits {digits : List Char} (hd : ∀ d ∈ digits, d.isDigit = true)
    (front rest : List Char) :
    pieces (some front) (digits ++ rest) = pieces (some (front ++ digits)) rest := by
  induction digits generalizing front with
  | nil => simp
  | cons d ds ih =>
    have hdig := hd d (List.mem_cons_self ..)
    have hds : ∀ e ∈ ds, e.isDigit = true := fun e he => hd e (List.mem_cons_of_mem _ he)
    rw [List.cons_append, pieces.eq_9 _ _ _ (ne_brace_of_isDigit hdig).2, if_pos hdig, ih hds]
    simp

theorem pieces_mark {m : Mark} (hm : m.Valid) (rest : List Char) :
    pieces none (m.spelling ++ rest) = (pieces none rest).map (m.piece :: ·) := by
  cases m with
  | plain c =>
    obtain ⟨ho, hc⟩ := hm
    exact pieces.eq_6 c rest (fun _ h => absurd h ho) (fun _ h => absurd h hc) ho hc
  | opening => exact pieces.eq_2 rest
  | closing => exact pieces.eq_3 rest
  | slot digits =>
    obtain ⟨hne, hd, hl⟩ := hm
    have hs : slotOf digits = .ok (.slot (Mark.number digits)) := by
      rw [slotOf, if_neg hne]
      exact if_pos hl
    have he : (Mark.slot digits).spelling ++ rest = '{' :: (digits ++ '}' :: rest) := by
      simp [Mark.spelling]
    rw [he, pieces_brace (head?_digits_ne hd rest), pieces_digits hd, List.nil_append, pieces.eq_8,
      hs]
    rfl

theorem pieces_spelling {front : List Char} {ms : List Mark} (h : Spelling front ms)
    (rest : List Char) :
    pieces none (front ++ rest) = (pieces none rest).map (ms.map Mark.piece ++ ·) := by
  obtain ⟨hv, rfl⟩ := h
  induction ms with
  | nil =>
    rw [List.flatMap_nil, List.nil_append]
    cases pieces none rest <;> rfl
  | cons m ms ih =>
    have hms : ∀ k ∈ ms, k.Valid := fun k hk => hv k (List.mem_cons_of_mem _ hk)
    rw [List.flatMap_cons, List.append_assoc, pieces_mark (hv m (List.mem_cons_self ..)), ih hms]
    cases pieces none rest <;> rfl

/-- An offence is reported where it stands. -/
theorem pieces_offence {rest : List Char} {fault : Fault} (h : Offence rest fault) :
    pieces none rest = .error fault := by
  cases h with
  | @unmatched cs h => exact pieces.eq_5 cs fun _ he => h (he ▸ rfl)
  | empty cs =>
    rw [pieces_brace (by simp), pieces.eq_8]
    rfl
  | @unclosed digits cs hd hcs hb =>
    rw [pieces_brace hb, pieces_digits hd]
    cases cs with
    | nil => exact pieces.eq_7 _
    | cons c cs =>
      obtain ⟨hdig, hc⟩ := hcs c rfl
      rw [pieces.eq_9 _ _ _ hc, if_neg (by simp [hdig])]
  | @tooLarge digits hd hl cs =>
    have hne : digits ≠ [] := by
      rintro rfl
      exact absurd hl (by decide)
    have hs : slotOf digits = .error (.slotTooLarge (String.ofList digits)) := by
      rw [slotOf, if_neg hne]
      exact if_neg (Nat.not_lt.mpr hl)
    rw [pieces_brace (head?_digits_ne hd cs), pieces_digits hd, List.nil_append, pieces.eq_8, hs]

/-! ## Parts -/

/-- The characters and slots of a part. -/
def Part.pieces : Part → List Piece
  | text s => s.toList.map Piece.char
  | slot n => [.slot n]

theorem pieces_onto (p : Part) (ps : List Part) :
    (p.onto ps).flatMap Part.pieces = p.pieces ++ ps.flatMap Part.pieces := by
  cases p with
  | slot n => rfl
  | text s =>
    cases ps with
    | nil => rfl
    | cons q ps => cases q <;> simp [Part.onto, Part.pieces]

theorem flatMap_pieces_ofPieces (ps : List Piece) : (ofPieces ps).flatMap Part.pieces = ps := by
  induction ps with
  | nil => rfl
  | cons p ps ih =>
    cases p with
    | char c =>
      rw [ofPieces, pieces_onto, ih]
      simp [Part.pieces]
    | slot n =>
      rw [ofPieces, List.flatMap_cons, ih]
      rfl

theorem onto_onto (s t : String) (ps : List Part) :
    (Part.text s).onto ((Part.text t).onto ps) = (Part.text (s ++ t)).onto ps := by
  cases ps with
  | nil => rfl
  | cons p ps => cases p <;> simp [Part.onto, String.append_assoc]

/-- Neighbouring characters make one text. -/
theorem ofPieces_chars_append {cs : List Char} (h : cs ≠ []) (ps : List Piece) :
    ofPieces (cs.map Piece.char ++ ps) = (Part.text (String.ofList cs)).onto (ofPieces ps) := by
  induction cs with
  | nil => exact absurd rfl h
  | cons c cs ih =>
    rw [List.map_cons, List.cons_append, ofPieces]
    by_cases hcs : cs = []
    · subst hcs
      rfl
    · have hc : String.singleton c ++ String.ofList cs = String.ofList (c :: cs) := by
        rw [← String.toList_inj]
        simp
      rw [ih hcs, onto_onto, hc]

theorem ofPieces_flatMap_pieces {ps : List Part} (h : Gathered ps) :
    ofPieces (ps.flatMap Part.pieces) = ps := by
  induction ps with
  | nil => rfl
  | cons p ps ih =>
    rw [List.flatMap_cons]
    cases p with
    | slot n =>
      have hps : Gathered ps := h
      rw [Part.pieces, List.singleton_append, ofPieces, ih hps]
    | text s =>
      obtain ⟨hs, hp, hps⟩ := h
      have hne : s.toList ≠ [] := by simpa using hs
      rw [Part.pieces, ofPieces_chars_append hne, ih hps, String.ofList_toList]
      cases ps with
      | nil => rfl
      | cons q qs =>
        cases q with
        | slot n => rfl
        | text t => exact absurd rfl hp

/-- **The parts of a template** are told by the characters and slots in them. -/
theorem eq_ofPieces_iff {parts : List Part} {ps : List Piece} :
    parts = ofPieces ps ↔ Gathered parts ∧ parts.flatMap Part.pieces = ps := by
  constructor
  · rintro rfl
    exact ⟨gathered_ofPieces ps, flatMap_pieces_ofPieces ps⟩
  · rintro ⟨hg, rfl⟩
    exact (ofPieces_flatMap_pieces hg).symm

theorem slots_eq (parts : List Part) :
    slots parts = (parts.flatMap Part.pieces).filterMap Piece.slot? := by
  induction parts with
  | nil => rfl
  | cons p parts ih =>
    rw [List.flatMap_cons, List.filterMap_append, ← ih]
    cases p with
    | slot n => rfl
    | text s =>
      have hs : (s.toList.map Piece.char).filterMap Piece.slot? = [] := by
        rw [List.filterMap_map, List.filterMap_eq_nil_iff]
        exact fun c _ => rfl
      rw [Part.pieces, hs]
      rfl

theorem slots_ofPieces (ms : List Mark) :
    slots (ofPieces (ms.map Mark.piece)) = ms.filterMap Mark.slot? := by
  rw [slots_eq, flatMap_pieces_ofPieces, List.filterMap_map]
  rfl

theorem parse_of_spelling {template : String} {ms : List Mark}
    (h : Spelling template.toList ms) : parse template = .ok (ofPieces (ms.map Mark.piece)) := by
  have hp := pieces_spelling h []
  rw [List.append_nil] at hp
  rw [parse, hp, pieces.eq_1]
  simp [Except.map]

theorem parse_of_offence {template : String} {front rest : List Char} {ms : List Mark}
    {fault : Fault} (he : template.toList = front ++ rest) (hs : Spelling front ms)
    (ho : Offence rest fault) : parse template = .error fault := by
  rw [parse, he, pieces_spelling hs, pieces_offence ho]
  rfl

/-! ## Terms -/

/-- A term as the marks of its template and its arguments tell it. -/
structure Accepted (template : String) (arguments : List Argument) (ms : List Mark) (t : Term) :
    Prop where
  spelling : Spelling template.toList ms
  /-- Each slot has an argument. -/
  supplied : ∀ n ∈ ms.filterMap Mark.slot?, n < arguments.length
  template_eq : t.template = template
  arguments_eq : t.arguments = arguments
  /-- No text is empty and no two texts stand side by side. -/
  gathered : Gathered t.parts
  /-- The parts hold what the marks stand for, in their order. -/
  pieces_eq : t.parts.flatMap Part.pieces = ms.map Mark.piece

/-- Why a template is refused: for its first offence, or, if it has none, for the first slot
without an argument. -/
inductive Refused (template : String) (arguments : List Argument) : SelectError → Prop
  | offence {front rest : List Char} {ms : List Mark} {fault : Fault}
      (he : template.toList = front ++ rest) (hs : Spelling front ms) (ho : Offence rest fault) :
      Refused template arguments (.invalidFilter template fault.reason)
  | unsupplied {ms : List Mark} {before after : List Nat} {n : Nat}
      (hs : Spelling template.toList ms) (he : ms.filterMap Mark.slot? = before ++ n :: after)
      (hb : ∀ k ∈ before, k < arguments.length) (hn : arguments.length ≤ n) :
      Refused template arguments (.invalidFilter template
        ("slot \x7b" ++ toString n ++ "\x7d has no parameter (" ++ toString arguments.length ++
          " given)"))

variable {template : String} {arguments : List Argument}

theorem exists_accepted {ms : List Mark} (hs : Spelling template.toList ms)
    (hsup : ∀ n ∈ ms.filterMap Mark.slot?, n < arguments.length) :
    ∃ t, Accepted template arguments ms t :=
  ⟨⟨template, ofPieces (ms.map Mark.piece), arguments⟩, hs, hsup, rfl, rfl, gathered_ofPieces _,
    flatMap_pieces_ofPieces _⟩

theorem ofTemplate_of_accepted {ms : List Mark} {t : Term}
    (h : Accepted template arguments ms t) : Term.ofTemplate template arguments = .ok t := by
  obtain ⟨hs, hsup, rfl, rfl, hg, hp⟩ := h
  have hparts : t.parts = ofPieces (ms.map Mark.piece) := eq_ofPieces_iff.mpr ⟨hg, hp⟩
  have hf : (slots t.parts).find? (t.arguments.length ≤ ·) = none := by
    rw [hparts, slots_ofPieces, List.find?_eq_none]
    intro n hn
    simpa using hsup n hn
  rw [Term.ofTemplate, parse_of_spelling hs, ← hparts]
  simp only [hf]

theorem ofTemplate_of_refused {e : SelectError} (h : Refused template arguments e) :
    Term.ofTemplate template arguments = .error e := by
  cases h with
  | offence he hs ho => rw [Term.ofTemplate, parse_of_offence he hs ho]
  | @unsupplied ms before after n hs he hb hn =>
    have hf : (slots (ofPieces (ms.map Mark.piece))).find? (arguments.length ≤ ·) = some n := by
      rw [slots_ofPieces, List.find?_eq_some_iff_append]
      refine ⟨by simpa using hn, before, after, he, ?_⟩
      intro k hk
      simpa using hb k hk
    rw [Term.ofTemplate, parse_of_spelling hs]
    simp only [hf]

theorem accepted_or_refused (template : String) (arguments : List Argument) :
    (∃ ms t, Accepted template arguments ms t) ∨ ∃ e, Refused template arguments e := by
  rcases spelling_or_offence template.toList with ⟨ms, hs⟩ | ⟨front, rest, ms, fault, he, hs, ho⟩
  · cases hf : (ms.filterMap Mark.slot?).find? (arguments.length ≤ ·) with
    | none =>
      rw [List.find?_eq_none] at hf
      have hsup : ∀ n ∈ ms.filterMap Mark.slot?, n < arguments.length := by
        intro n hn
        simpa using hf n hn
      exact Or.inl ⟨ms, exists_accepted hs hsup⟩
    | some n =>
      obtain ⟨hn, before, after, he, hb⟩ := List.find?_eq_some_iff_append.mp hf
      have hb' : ∀ k ∈ before, k < arguments.length := by
        intro k hk
        simpa using hb k hk
      exact Or.inr ⟨_, .unsupplied hs he hb' (by simpa using hn)⟩
  · exact Or.inr ⟨_, .offence he hs ho⟩

/-- **Just the runs of marks are templates.** A text is such a run in at most one way. It is
accepted if each slot has an argument, and the parts are then told by the marks; it is refused for
its first offence, and if it has none for the first slot without an argument. -/
theorem template_grammar (template : String) (arguments : List Argument) :
    (∀ ms ns, Spelling template.toList ms → Spelling template.toList ns → ms = ns) ∧
    ((∃ t, Term.ofTemplate template arguments = .ok t) ↔
      ∃ ms, Spelling template.toList ms ∧ ∀ n ∈ ms.filterMap Mark.slot?, n < arguments.length) ∧
    (∀ t, Term.ofTemplate template arguments = .ok t ↔ ∃ ms, Accepted template arguments ms t) ∧
    ∀ e, Term.ofTemplate template arguments = .error e ↔ Refused template arguments e := by
  have hok : ∀ t, Term.ofTemplate template arguments = .ok t ↔
      ∃ ms, Accepted template arguments ms t := by
    intro t
    constructor
    · intro h
      rcases accepted_or_refused template arguments with ⟨ms, t', ha⟩ | ⟨e, hr⟩
      · rw [ofTemplate_of_accepted ha] at h
        exact ⟨ms, Except.ok.inj h ▸ ha⟩
      · rw [ofTemplate_of_refused hr] at h
        cases h
    · rintro ⟨ms, ha⟩
      exact ofTemplate_of_accepted ha
  refine ⟨fun ms ns => Spelling.unique, ?_, hok, fun e => ?_⟩
  · constructor
    · rintro ⟨t, h⟩
      obtain ⟨ms, ha⟩ := (hok t).mp h
      exact ⟨ms, ha.spelling, ha.supplied⟩
    · rintro ⟨ms, hs, hsup⟩
      obtain ⟨t, ha⟩ := exists_accepted hs hsup
      exact ⟨t, ofTemplate_of_accepted ha⟩
  · constructor
    · intro h
      rcases accepted_or_refused template arguments with ⟨ms, t, ha⟩ | ⟨e', hr⟩
      · rw [ofTemplate_of_accepted ha] at h
        cases h
      · rw [ofTemplate_of_refused hr] at h
        exact Except.error.inj h ▸ hr
    · exact ofTemplate_of_refused

/-- A slot between two doubled braces. In the second template the slot has no argument, but the
brace behind it is what is reported. -/
theorem template_grammar_braces :
    Spelling "\x7b\x7b\x7b00\x7d\x7d\x7d".toList [.opening, .slot ['0', '0'], .closing] ∧
    Term.ofTemplate "\x7b\x7b\x7b00\x7d\x7d\x7d" [.literal .null] =
      .ok ⟨"\x7b\x7b\x7b00\x7d\x7d\x7d", [.text "\x7b", .slot 0, .text "\x7d"],
        [.literal .null]⟩ ∧
    Term.ofTemplate "\x7b5\x7d\x7d" [] =
      .error (.invalidFilter "\x7b5\x7d\x7d" "unmatched '\x7d'") := by
  have hs : Spelling "\x7b\x7b\x7b00\x7d\x7d\x7d".toList
      [.opening, .slot ['0', '0'], .closing] := by
    refine ⟨?_, by decide +kernel⟩
    simp only [List.forall_mem_cons]
    exact ⟨trivial, ⟨by decide, List.all_eq_true.mp rfl, by decide⟩, trivial, nofun⟩
  obtain ⟨-, -, hok, -⟩ := template_grammar "\x7b\x7b\x7b00\x7d\x7d\x7d" [.literal .null]
  obtain ⟨-, -, -, herr⟩ := template_grammar "\x7b5\x7d\x7d" []
  refine ⟨hs, (hok _).mpr ⟨_, hs, ?_, rfl, rfl, ?_, ?_⟩, (herr _).mpr ?_⟩
  · decide
  · exact ⟨by decide, by decide, by decide, by decide, trivial⟩
  · decide +kernel
  · have hfront : Spelling ['{', '5', '}'] [.slot ['5']] := by
      refine ⟨?_, by decide⟩
      simp only [List.forall_mem_cons]
      exact ⟨⟨by decide, List.all_eq_true.mp rfl, by decide⟩, nofun⟩
    have he : "\x7b5\x7d\x7d".toList = ['{', '5', '}'] ++ ['}'] := by decide +kernel
    exact .offence he hfront (.unmatched (by decide))

end SelectQuery.Template
