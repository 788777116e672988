import SelectQuery.Text.Blank
import SelectQuery.Text.Quoted

/-!
# The wording of a text

How a text falls apart into words, quoted texts, parentheses and other characters, whoever wrote
it. A qualified name is one word. White space separates lexemes and is none itself.

* `Mode.read`: goes from character to character and fails inside of quotes only;
* `Mode.read_append`: a text may be read in two pieces, if no lexeme goes across the gap;
* `lexemes_write`, `lexemes_word`: a literal and a name are one lexeme each.
-/

namespace SelectQuery.Wording

/-- A lexeme that is not a parenthesis. -/
inductive Atom where
  | word (s : List Char)
  /-- What stands between single quotes, each doubled quote taken once. -/
  | quoted (s : List Char)
  | symbol (c : Char)
  deriving DecidableEq, Repr

inductive Lexeme where
  | atom (a : Atom)
  | lparen
  | rparen
  deriving DecidableEq, Repr

/-- Letters, digits and what else holds a qualified name together. Beyond ASCII everything counts
that is not white space. -/
def isWordChar (c : Char) : Bool :=
  c.isAlphanum || c = '_' || c = '.' || (0x80 ≤ c.toNat && !Text.isWhiteSpace c)

/-- Where in a lexeme a reader stands. -/
inductive Mode where
  | between
  | word (s : List Char)
  | quoted (s : List Char)
  /-- Behind a quote that ends a quoted text, unless a second one follows. -/
  | closing (s : List Char)
  deriving DecidableEq, Repr

/-- A character that begins something new. -/
def start (c : Char) : List Lexeme × Mode :=
  if c = '\'' then ([], .quoted [])
  else if c = '(' then ([.lparen], .between)
  else if c = ')' then ([.rparen], .between)
  else if Text.isWhiteSpace c then ([], .between)
  else if isWordChar c then ([], .word [c])
  else ([.atom (.symbol c)], .between)

namespace Mode

/-- What is there at the end of a text. -/
def finish : Mode → Option (List Lexeme)
  | between => some []
  | word s => some [.atom (.word s)]
  | quoted _ => none
  | closing s => some [.atom (.quoted s)]

def step : Mode → Char → List Lexeme × Mode
  | between, c => start c
  | word s, c =>
    if isWordChar c then ([], word (s ++ [c]))
    else (.atom (.word s) :: (start c).1, (start c).2)
  | quoted s, c => if c = '\'' then ([], closing s) else ([], quoted (s ++ [c]))
  | closing s, c =>
    if c = '\'' then ([], quoted (s ++ [c]))
    else (.atom (.quoted s) :: (start c).1, (start c).2)

/-- The lexemes of the rest of a text. -/
def read : Mode → List Char → Option (List Lexeme)
  | m, [] => m.finish
  | m, c :: cs => ((m.step c).2.read cs).map ((m.step c).1 ++ ·)

end Mode

/-- The lexemes of a text, unless it ends inside of quotes. -/
def lexemes (cs : List Char) : Option (List Lexeme) := Mode.between.read cs

/-! ## Two pieces -/

/-- A character that belongs to no lexeme in front of it. -/
def Breaks (c : Char) : Prop := c ≠ '\'' ∧ isWordChar c = false

instance : DecidablePred Breaks := fun c =>
  inferInstanceAs (Decidable (c ≠ '\'' ∧ isWordChar c = false))

namespace Mode

variable {m : Mode}

theorem step_of_breaks {c : Char} {xs : List Lexeme} (hc : Breaks c) (h : m.finish = some xs) :
    m.step c = (xs ++ (start c).1, (start c).2) := by
  obtain ⟨hq, hw⟩ := hc
  cases m with
  | between | word s | closing s =>
    obtain rfl := Option.some.inj h
    simp [step, hq, hw]
  | quoted s => cases h

/-- **A text in two pieces.** -/
theorem read_append {cs ds : List Char} {c : Char} {xs : List Lexeme} (hc : Breaks c)
    (h : m.read cs = some xs) : m.read (cs ++ c :: ds) = (lexemes (c :: ds)).map (xs ++ ·) := by
  induction cs generalizing m xs with
  | nil =>
    rw [List.nil_append, read, step_of_breaks hc h, lexemes, read]
    simp [step, Function.comp_def, List.append_assoc]
  | cons d cs ih =>
    obtain ⟨ys, hy, rfl⟩ := Option.map_eq_some_iff.mp h
    rw [List.cons_append, read, ih hy, Option.map_map]
    simp [Function.comp_def, List.append_assoc]

end Mode

theorem lexemes_append {cs ds : List Char} {c : Char} {xs ys : List Lexeme} (hc : Breaks c)
    (hx : lexemes cs = some xs) (hy : lexemes (c :: ds) = some ys) :
    lexemes (cs ++ c :: ds) = some (xs ++ ys) := by
  rw [lexemes, Mode.read_append hc hx, hy, Option.map_some]

/-! ## Single lexemes -/

theorem read_word {s cs : List Char} (h : ∀ c ∈ cs, isWordChar c) :
    (Mode.word s).read cs = some [.atom (.word (s ++ cs))] := by
  induction cs generalizing s with
  | nil => simp [Mode.read, Mode.finish]
  | cons c cs ih =>
    have hc := h c (List.mem_cons_self ..)
    have hcs : ∀ d ∈ cs, isWordChar d := fun d hd => h d (List.mem_cons_of_mem _ hd)
    simp [Mode.read, Mode.step, hc, ih hcs]

theorem isWhiteSpace_of_isWordChar {c : Char} (h : isWordChar c) : Text.isWhiteSpace c = false := by
  simp only [isWordChar, Bool.or_eq_true, Bool.and_eq_true, decide_eq_true_eq] at h
  rcases h with ((h | rfl) | rfl) | ⟨-, h⟩
  · have hb : 48 ≤ c.toNat ∧ c.toNat ≤ 122 := by
      have hn : c.val.toNat = c.toNat := rfl
      have hr : (decide (c.val ≥ 'A'.val ∧ c.val ≤ 'Z'.val) ||
          c.val ≥ 'a'.val && c.val ≤ 'z'.val || c.val ≥ '0'.val && c.val ≤ '9'.val) = true := h
      simp [UInt32.le_iff_toNat_le] at hr
      omega
    simp [Text.isWhiteSpace]
    omega
  · decide
  · decide
  · simpa using h

theorem start_of_isWordChar {c : Char} (h : isWordChar c) : start c = ([], .word [c]) := by
  have hn : ∀ d, isWordChar d = false → c ≠ d := fun d hd e => by simp [e, hd] at h
  have hq : c ≠ '\'' := hn _ (by decide)
  have hl : c ≠ '(' := hn _ (by decide)
  have hr : c ≠ ')' := hn _ (by decide)
  simp [start, hq, hl, hr, isWhiteSpace_of_isWordChar h, h]

/-- **A name is one lexeme.** -/
theorem lexemes_word {c : Char} {cs : List Char} (h : ∀ d ∈ c :: cs, isWordChar d) :
    lexemes (c :: cs) = some [.atom (.word (c :: cs))] := by
  rw [List.forall_mem_cons] at h
  simp [lexemes, Mode.read, Mode.step, start_of_isWordChar h.1, read_word h.2]

theorem read_doubled (s cs : List Char) :
    (Mode.quoted s).read (Text.Quoted.doubled cs ++ ['\'']) = some [.atom (.quoted (s ++ cs))] := by
  induction cs generalizing s with
  | nil => simp [Text.Quoted.doubled, Mode.read, Mode.step, Mode.finish]
  | cons c cs ih =>
    by_cases hc : c = '\'' <;> simp [Text.Quoted.doubled, hc, Mode.read, Mode.step, ih]

/-- **A literal is one lexeme**, whatever its text. -/
theorem lexemes_write (s : String) :
    lexemes (Text.Quoted.write s).toList = some [.atom (.quoted s.toList)] := by
  rw [Text.Quoted.toList_write, lexemes, List.cons_append, Mode.read]
  simp [Mode.step, start, read_doubled]

end SelectQuery.Wording
