import Mathlib.Data.List.TakeDrop
import Mathlib.Data.List.TakeWhile
import ProcMeter.Json.Printer
import ProcMeter.Json.Reader
import ProcMeter.Proofs.Numerals

/-! Written JSON is read back. The text of a value is scanned into the lexemes of the value,
whatever comes next, and these put the value together again in whatever container is open. -/
namespace ProcMeter.Json

/-! ## Scanning -/

/-- What comes next does not go on with a word or a number. -/
def Delimited (rest : List Char) : Prop :=
  ∀ c ∈ rest.head?, isNumberChar c = false ∧ ¬ ('a' ≤ c ∧ c ≤ 'z')

theorem delimited_cons {c : Char} {cs : List Char} (number : isNumberChar c = false)
    (letter : ¬ ('a' ≤ c ∧ c ≤ 'z')) : Delimited (c :: cs) := by
  rintro d mem
  obtain rfl : c = d := Option.some.inj mem
  exact ⟨number, letter⟩

theorem lexFrom?_step {s s' : Scan} {ls done : List Lexeme} {c : Char} {cs : List Char}
    (scanned : scanChar? c s = some (s', ls)) :
    lexFrom? s done (c :: cs) = lexFrom? s' (ls.reverse ++ done) cs := by
  rw [lexFrom?, scanned]

/-- A lexeme that ends where another begins, or where the text ends. -/
theorem lexFrom?_end {s : Scan} {l : Lexeme} {done : List Lexeme} {rest : List Char}
    (finish : finish? s = some [l])
    (ends : ∀ c ∈ rest.head?, scanChar? c s = (start? c).map fun x => (x.1, l :: x.2)) :
    lexFrom? s done rest = lexFrom? .between (l :: done) rest := by
  match rest with
  | [] => rw [lexFrom?, lexFrom?, finish]; rfl
  | c :: cs =>
    rw [lexFrom?, lexFrom?, ends c rfl, scanChar?]
    cases start? c with
    | none => rfl
    | some x => simp only [Option.map_some, List.reverse_cons, List.append_assoc,
        List.singleton_append]

theorem lexFrom?_word {cs : List Char} {w : Lexeme} (word : word? cs.reverse = some w)
    (done : List Lexeme) {rest : List Char} (delimited : Delimited rest) :
    lexFrom? (.word cs) done rest = lexFrom? .between (w :: done) rest := by
  refine lexFrom?_end (by rw [finish?, word]; rfl) fun c mem => ?_
  rw [scanChar?, if_neg (delimited c mem).2, word]
  cases start? c <;> rfl

theorem lexFrom?_number {cs : List Char} {n : Numeral} (number : numeral? cs.reverse = some n)
    (done : List Lexeme) {rest : List Char} (delimited : Delimited rest) :
    lexFrom? (.number cs) done rest = lexFrom? .between (.num n :: done) rest := by
  refine lexFrom?_end (by rw [finish?, number]; rfl) fun c mem => ?_
  rw [scanChar?, if_neg (Bool.eq_false_iff.1 (delimited c mem).1), number]
  cases start? c <;> rfl

theorem lexFrom?_numberChars {ds : List Char} (all : ∀ c ∈ ds, isNumberChar c = true)
    (cs : List Char) (done : List Lexeme) (rest : List Char) :
    lexFrom? (.number cs) done (ds ++ rest) = lexFrom? (.number (ds.reverse ++ cs)) done rest := by
  induction ds generalizing cs with
  | nil => rfl
  | cons d ds ih =>
    obtain ⟨first, others⟩ := List.forall_mem_cons.1 all
    have scanned : scanChar? d (.number cs) = some (.number (d :: cs), []) := by
      rw [scanChar?, if_pos first]
    rw [List.cons_append, lexFrom?_step scanned, List.reverse_nil, List.nil_append, ih others,
      List.reverse_cons, List.append_assoc, List.singleton_append]

theorem start?_number {c : Char} (first : c = '-' ∨ c.isDigit = true) :
    start? c = some (.number [c], []) := by
  have other (d : Char) (no : ¬ (d = '-' ∨ d.isDigit = true)) : c ≠ d := fun same =>
    no (same ▸ first)
  have blank : ¬ (c = ' ' ∨ c = '\t' ∨ c = '\n' ∨ c = '\r') := by
    rintro (same | same | same | same) <;> exact other _ (by decide) same
  rw [start?, if_neg blank, if_neg (other _ (by decide)), if_neg (other _ (by decide)),
    if_neg (other _ (by decide)), if_neg (other _ (by decide)), if_neg (other _ (by decide)),
    if_neg (other _ (by decide)), if_neg (other _ (by decide)), if_pos first]

theorem isNumberChar_of_isDigit {c : Char} (digit : c.isDigit = true) : isNumberChar c = true := by
  simp only [isNumberChar, digit, Bool.true_or]

/-- Only zero is written with a leading zero. -/
theorem toDigits_head?_ne {n : Nat} (pos : 0 < n) : (Nat.toDigits 10 n).head? ≠ some '0' := by
  induction n using Nat.strong_induction_on with
  | _ n ih =>
    rcases Nat.lt_or_ge n 10 with small | large
    · rw [Nat.toDigits_of_lt_base small]
      interval_cases n <;> decide
    · have before := ih (n / 10) (by omega) (by omega)
      rw [Nat.toDigits_of_base_le (by decide) large]
      cases split : Nat.toDigits 10 (n / 10) with
      | nil => exact absurd split (Text.toDigits_ne_nil _)
      | cons d ds => rwa [split] at before

theorem spanDigits_toDigits (n : Nat) :
    spanDigits (Nat.toDigits 10 n) = (Nat.toDigits 10 n, []) := by
  have digits : ∀ c ∈ Nat.toDigits 10 n, c.isDigit = true := fun c mem =>
    Text.isDigit_of_mem_toDigits mem
  rw [spanDigits, List.span_eq_takeWhile_dropWhile, List.takeWhile_eq_self_iff.2 digits,
    List.dropWhile_eq_nil_iff.2 digits]

theorem unsignedNumeral?_toDigits (n : Nat) :
    unsignedNumeral? (Nat.toDigits 10 n) = some ⟨false, n, 0, true⟩ := by
  have lead : ¬ ((Nat.toDigits 10 n).isEmpty = true ∨ ((Nat.toDigits 10 n).head? = some '0' ∧
      (Nat.toDigits 10 n).length ≠ 1)) := by
    rintro (empty | ⟨zero, long⟩)
    · exact Text.toDigits_ne_nil n (List.isEmpty_iff.1 empty)
    · rcases Nat.eq_zero_or_pos n with rfl | pos
      · exact long rfl
      · exact toDigits_head?_ne pos zero
  rw [unsignedNumeral?, spanDigits_toDigits]
  simp only [if_neg lead, exponent?, Text.digits?_toDigits]
  rfl

theorem numeral?_render {n : Numeral} (whole : n.whole = true) (scale : n.scale = 0) :
    numeral? n.render = some n := by
  obtain ⟨negative, coefficient, _, _⟩ := n
  subst whole scale
  cases negative with
  | true =>
    show (unsignedNumeral? (Nat.toDigits 10 coefficient)).map _ = _
    rw [unsignedNumeral?_toDigits]
    rfl
  | false =>
    have unsigned : ∀ rest, Nat.toDigits 10 coefficient = '-' :: rest → False :=
      fun rest signed => Text.toDigits_head_ne '-' (by decide) signed rfl
    show numeral? (Nat.toDigits 10 coefficient) = _
    rw [numeral?.eq_2 _ unsigned, unsignedNumeral?_toDigits]

/-- The text of a whole number. -/
theorem lexFrom?_render {n : Numeral} (whole : n.whole = true) (scale : n.scale = 0)
    (done : List Lexeme) {rest : List Char} (delimited : Delimited rest) :
    lexFrom? .between done (n.render ++ rest) = lexFrom? .between (.num n :: done) rest := by
  have digit : ∀ c ∈ Nat.toDigits 10 n.coefficient, c.isDigit = true := fun c mem =>
    Text.isDigit_of_mem_toDigits mem
  have chars : ∀ c ∈ n.render, c = '-' ∨ c.isDigit = true := by
    intro c mem
    rw [Numeral.render, if_pos whole] at mem
    split at mem
    case isTrue => exact (List.mem_cons.1 mem).imp_right (digit c)
    case isFalse => exact .inr (digit c mem)
  have read := numeral?_render whole scale
  cases split : n.render with
  | nil =>
    rw [split] at read
    contradiction
  | cons c cs =>
    rw [split] at chars read
    obtain ⟨first, others⟩ := List.forall_mem_cons.1 chars
    have scanned : scanChar? c .between = some (.number [c], []) := start?_number first
    have more : ∀ d ∈ cs, isNumberChar d = true := fun d mem =>
      (others d mem).elim (fun minus => by rw [minus]; decide) isNumberChar_of_isDigit
    rw [List.cons_append, lexFrom?_step scanned, lexFrom?_numberChars more]
    refine lexFrom?_number ?_ done delimited
    rw [List.reverse_append, List.reverse_reverse]
    exact read

theorem digitIn?_hexDigit {d : Nat} (small : d < 16) : Text.digitIn? 16 (hexDigit d) = some d := by
  interval_cases d <;> rfl

theorem ofUnit_toNat {c : Char} (control : c.toNat < 32) : Piece.ofUnit c.toNat = .char c := by
  rw [Piece.ofUnit, if_neg (by omega), Char.ofNat_toNat]

theorem lexFrom?_escapeChar (c : Char) (ps : List Piece) (done : List Lexeme) (rest : List Char) :
    lexFrom? (.string ps) done (escapeChar c ++ rest) =
      lexFrom? (.string (.char c :: ps)) done rest := by
  rw [escapeChar]
  have code {n : Nat} (is : c.toNat = n) : c = Char.ofNat n := is ▸ (Char.ofNat_toNat c).symm
  split
  case isTrue quote => rw [quote]; rfl
  split
  case isTrue solidus => rw [solidus]; rfl
  split
  case isTrue is => rw [code is]; rfl
  split
  case isTrue is => rw [code is]; rfl
  split
  case isTrue is => rw [code is]; rfl
  split
  case isTrue is => rw [code is]; rfl
  split
  case isTrue is => rw [code is]; rfl
  split
  case isTrue control =>
    have high : c.toNat / 16 < 16 := by omega
    have low : c.toNat % 16 < 16 := by omega
    have value : (((0 * 16 + 0) * 16 + 0) * 16 + c.toNat / 16) * 16 + c.toNat % 16 = c.toNat := by
      omega
    have last : scanChar? (hexDigit (c.toNat % 16))
        (.unit ps 0 (((0 * 16 + 0) * 16 + 0) * 16 + c.toNat / 16)) =
          some (.string (.char c :: ps), []) := by
      simp only [scanChar?, digitIn?_hexDigit low, Option.bind_eq_bind, Option.bind_some, value,
        ofUnit_toNat control]
    have before : scanChar? (hexDigit (c.toNat / 16)) (.unit ps 1 ((0 * 16 + 0) * 16 + 0)) =
        some (.unit ps 0 (((0 * 16 + 0) * 16 + 0) * 16 + c.toNat / 16), []) := by
      simp only [scanChar?, digitIn?_hexDigit high, Option.bind_eq_bind, Option.bind_some]
    show lexFrom? (.unit ps 1 ((0 * 16 + 0) * 16 + 0)) done
      (hexDigit (c.toNat / 16) :: hexDigit (c.toNat % 16) :: rest) = _
    rw [lexFrom?_step before, lexFrom?_step last]
    rfl
  case isFalse noQuote noSolidus _ _ _ _ _ noControl =>
    have scanned : scanChar? c (.string ps) = some (.string (.char c :: ps), []) := by
      rw [scanChar?, if_neg noQuote, if_neg noSolidus, if_neg noControl]
    exact lexFrom?_step scanned

theorem lexFrom?_escaped (cs : List Char) (ps : List Piece) (done : List Lexeme)
    (rest : List Char) :
    lexFrom? (.string ps) done (cs.flatMap escapeChar ++ rest) =
      lexFrom? (.string ((cs.map .char).reverse ++ ps)) done rest := by
  induction cs generalizing ps with
  | nil => rfl
  | cons c cs ih =>
    rw [List.flatMap_cons, List.append_assoc, lexFrom?_escapeChar, ih, List.map_cons,
      List.reverse_cons, List.append_assoc, List.singleton_append]

theorem joinPieces?_char (cs : List Char) : joinPieces? (cs.map .char) = some cs := by
  induction cs with
  | nil => rfl
  | cons c cs ih => rw [List.map_cons, joinPieces?, ih, Option.map_some]

/-- A quoted string is its own text. -/
theorem lexFrom?_quote (s : String) (done : List Lexeme) (rest : List Char) :
    lexFrom? .between done (quote s ++ rest) = lexFrom? .between (.str (some s) :: done) rest := by
  have text : (joinPieces? ((s.toList.map Piece.char).reverse ++ []).reverse).map String.ofList =
      some s := by
    rw [List.append_nil, List.reverse_reverse, joinPieces?_char, Option.map_some,
      String.ofList_toList]
  have opened : scanChar? '"' .between = some (.string [], []) := rfl
  have closed (ps : List Piece) : scanChar? '"' (.string ps) =
      some (.between, [.str ((joinPieces? ps.reverse).map String.ofList)]) := rfl
  rw [quote, List.cons_append, lexFrom?_step opened, List.append_assoc, lexFrom?_escaped,
    List.singleton_append, lexFrom?_step (closed _), text]
  rfl

/-! ## Values -/

/-- A value that is written just as it is: all text in it is well formed and all numbers are
whole. -/
inductive Plain : Json → Prop
  | null : Plain .null
  | bool (b : Bool) : Plain (.bool b)
  | num {n : Numeral} (whole : n.whole = true) (scale : n.scale = 0) : Plain (.num n)
  | str (s : String) : Plain (.str s)
  | arr {vs : List Json} (each : ∀ v ∈ vs, Plain v) : Plain (.arr vs)
  | obj {ms : List (String × Json)} (each : ∀ m ∈ ms, Plain m.2) : Plain (.obj ms)

attribute [simp] Plain.null Plain.bool Plain.str

@[simp]
theorem plain_ofNat (n : Nat) : (ofNat n).Plain := .num rfl rfl

@[simp]
theorem plain_arr {vs : List Json} : (Json.arr vs).Plain ↔ ∀ v ∈ vs, v.Plain :=
  ⟨fun | .arr each => each, .arr⟩

@[simp]
theorem plain_obj {ms : List (String × Json)} : (Json.obj ms).Plain ↔ ∀ m ∈ ms, m.2.Plain :=
  ⟨fun | .obj each => each, .obj⟩

@[simp]
theorem plain_strings (xs : List String) : (strings xs).Plain :=
  .arr (List.forall_mem_map.2 fun x _ => .str x)

theorem plain_ofOption {α : Type} {f : α → Json} (each : ∀ a, (f a).Plain) (o : Option α) :
    (ofOption f o).Plain := by
  cases o with
  | none => exact .null
  | some a => exact each a

mutual

/-- The lexemes of a value. -/
def lexemes : Json → List Lexeme
  | .null => [.null]
  | .bool b => [.bool b]
  | .num n => [.num n]
  | .str s => [.str (some s)]
  | .arr [] => [.opening false, .closing false]
  | .arr (v :: vs) => .opening false :: (lexemes v ++ itemLexemes vs ++ [.closing false])
  | .obj [] => [.opening true, .closing true]
  | .obj ((k, v) :: ms) =>
    .opening true :: .str (some k) :: .colon :: (lexemes v ++ memberLexemes ms ++ [.closing true])
  | .illFormed => [.str none]

/-- The lexemes of the items after the first. -/
def itemLexemes : List Json → List Lexeme
  | [] => []
  | v :: vs => .comma :: (lexemes v ++ itemLexemes vs)

/-- The lexemes of the members after the first. -/
def memberLexemes : List (String × Json) → List Lexeme
  | [] => []
  | (k, v) :: ms => .comma :: .str (some k) :: .colon :: (lexemes v ++ memberLexemes ms)

end

def isSpace (c : Char) : Bool := c == ' ' || c == '\n'

/-- Only spaces stand between the lexemes. -/
structure Spacing.Blank (sp : Spacing) : Prop where
  newline : ∀ depth, ∀ c ∈ sp.newline depth, isSpace c = true
  colon : ∃ spaces, sp.colon = ':' :: spaces ∧ ∀ c ∈ spaces, isSpace c = true

theorem Spacing.compact_blank : Spacing.compact.Blank :=
  ⟨fun _ => List.forall_mem_nil _, [], rfl, List.forall_mem_nil _⟩

theorem Spacing.indented_blank : Spacing.indented.Blank where
  newline depth := by
    refine List.forall_mem_cons.2 ⟨by decide, fun c mem => ?_⟩
    rw [List.eq_of_mem_replicate mem]
    decide
  colon := ⟨[' '], rfl, List.forall_mem_singleton.2 rfl⟩

theorem lexFrom?_spaces {spaces : List Char} (blank : ∀ c ∈ spaces, isSpace c = true)
    (done : List Lexeme) (rest : List Char) :
    lexFrom? .between done (spaces ++ rest) = lexFrom? .between done rest := by
  induction spaces with
  | nil => rfl
  | cons c cs ih =>
    obtain ⟨first, others⟩ := List.forall_mem_cons.1 blank
    have scanned : scanChar? c .between = some (.between, []) := by
      rcases Bool.or_eq_true_iff.1 first with space | newline
      · rw [eq_of_beq space]; rfl
      · rw [eq_of_beq newline]; rfl
    rw [List.cons_append, lexFrom?_step scanned]
    exact ih others

theorem Delimited.spaces {spaces rest : List Char} (blank : ∀ c ∈ spaces, isSpace c = true)
    (delimited : Delimited rest) : Delimited (spaces ++ rest) := by
  match spaces with
  | [] => exact delimited
  | c :: cs =>
    rcases Bool.or_eq_true_iff.1 (blank c List.mem_cons_self) with space | newline
    · rw [eq_of_beq space]
      exact delimited_cons (by decide) (by decide)
    · rw [eq_of_beq newline]
      exact delimited_cons (by decide) (by decide)

theorem Delimited.items {rest : List Char} (delimited : Delimited rest) (sp : Spacing)
    (depth : Nat) (vs : List Json) : Delimited (writeItems sp depth vs ++ rest) := by
  cases vs with
  | nil => rwa [writeItems]
  | cons v vs =>
    rw [writeItems]
    exact delimited_cons (by decide) (by decide)

theorem Delimited.members {rest : List Char} (delimited : Delimited rest) (sp : Spacing)
    (depth : Nat) (ms : List (String × Json)) : Delimited (writeMembers sp depth ms ++ rest) := by
  cases ms with
  | nil => rwa [writeMembers]
  | cons m ms =>
    rw [writeMembers]
    exact delimited_cons (by decide) (by decide)

section
variable {sp : Spacing} (blank : sp.Blank)
include blank

theorem lexFrom?_colon (done : List Lexeme) (rest : List Char) :
    lexFrom? .between done (sp.colon ++ rest) = lexFrom? .between (.colon :: done) rest := by
  obtain ⟨spaces, split, only⟩ := blank.colon
  have scanned : scanChar? ':' .between = some (.between, [.colon]) := rfl
  rw [split, List.cons_append, lexFrom?_step scanned]
  exact lexFrom?_spaces only _ rest

mutual

/-- A written value is scanned into its lexemes. -/
theorem lexFrom?_write : ∀ (v : Json) (_ : v.Plain) (depth : Nat) (done : List Lexeme)
    {rest : List Char} (_ : Delimited rest),
    lexFrom? .between done (write sp depth v ++ rest) =
      lexFrom? .between (v.lexemes.reverse ++ done) rest
  | .null, _, _, done, rest, delimited => by
    rw [write]
    show lexFrom? (.word ['l', 'l', 'u', 'n']) done rest = _
    exact lexFrom?_word rfl done delimited
  | .bool true, _, _, done, rest, delimited => by
    rw [write]
    show lexFrom? (.word ['e', 'u', 'r', 't']) done rest = _
    exact lexFrom?_word rfl done delimited
  | .bool false, _, _, done, rest, delimited => by
    rw [write]
    show lexFrom? (.word ['e', 's', 'l', 'a', 'f']) done rest = _
    exact lexFrom?_word rfl done delimited
  | .num n, .num whole scale, _, done, rest, delimited => by
    rw [write]
    exact lexFrom?_render whole scale done delimited
  | .str s, _, _, done, rest, _ => by
    rw [write]
    exact lexFrom?_quote s done rest
  | .arr [], _, _, done, rest, _ => by
    rw [write]
    rfl
  | .arr (v :: vs), .arr each, depth, done, rest, _ => by
    have opens : scanChar? '[' .between = some (.between, [.opening false]) := rfl
    have closes : scanChar? ']' .between = some (.between, [.closing false]) := rfl
    obtain ⟨first, others⟩ := List.forall_mem_cons.1 each
    have close : Delimited (sp.newline depth ++ ']' :: rest) :=
      (delimited_cons (by decide) (by decide)).spaces (blank.newline depth)
    rw [write, List.cons_append, lexFrom?_step opens]
    simp only [List.append_assoc, List.singleton_append]
    rw [lexFrom?_spaces (blank.newline _),
      lexFrom?_write v first _ _ (close.items sp _ vs),
      lexFrom?_writeItems vs others _ _ close, lexFrom?_spaces (blank.newline _),
      lexFrom?_step closes]
    simp only [lexemes, List.reverse_cons, List.reverse_append, List.append_assoc,
      List.reverse_nil, List.nil_append, List.cons_append]
  | .obj [], _, _, done, rest, _ => by
    rw [write]
    rfl
  | .obj ((k, v) :: ms), .obj each, depth, done, rest, _ => by
    have opens : scanChar? '{' .between = some (.between, [.opening true]) := rfl
    have closes : scanChar? '}' .between = some (.between, [.closing true]) := rfl
    obtain ⟨first, others⟩ := List.forall_mem_cons.1 each
    have close : Delimited (sp.newline depth ++ '}' :: rest) :=
      (delimited_cons (by decide) (by decide)).spaces (blank.newline depth)
    rw [write, List.cons_append, lexFrom?_step opens]
    simp only [List.append_assoc, List.singleton_append]
    rw [lexFrom?_spaces (blank.newline _), lexFrom?_quote, lexFrom?_colon blank,
      lexFrom?_write v first _ _ (close.members sp _ ms),
      lexFrom?_writeMembers ms others _ _ close, lexFrom?_spaces (blank.newline _),
      lexFrom?_step closes]
    simp only [lexemes, List.reverse_cons, List.reverse_append, List.append_assoc,
      List.reverse_nil, List.nil_append, List.cons_append]

theorem lexFrom?_writeItems : ∀ (vs : List Json) (_ : ∀ v ∈ vs, v.Plain) (depth : Nat)
    (done : List Lexeme) {rest : List Char} (_ : Delimited rest),
    lexFrom? .between done (writeItems sp depth vs ++ rest) =
      lexFrom? .between ((itemLexemes vs).reverse ++ done) rest
  | [], _, _, _, _, _ => by
    rw [writeItems]
    rfl
  | v :: vs, each, depth, done, rest, delimited => by
    have comma : scanChar? ',' .between = some (.between, [.comma]) := rfl
    obtain ⟨first, others⟩ := List.forall_mem_cons.1 each
    rw [writeItems, itemLexemes, List.cons_append, lexFrom?_step comma, List.append_assoc,
      List.append_assoc, lexFrom?_spaces (blank.newline depth),
      lexFrom?_write v first depth _ (delimited.items sp depth vs),
      lexFrom?_writeItems vs others depth _ delimited]
    simp only [List.reverse_cons, List.reverse_append, List.append_assoc, List.reverse_nil,
      List.nil_append]

theorem lexFrom?_writeMembers : ∀ (ms : List (String × Json)) (_ : ∀ m ∈ ms, m.2.Plain)
    (depth : Nat) (done : List Lexeme) {rest : List Char} (_ : Delimited rest),
    lexFrom? .between done (writeMembers sp depth ms ++ rest) =
      lexFrom? .between ((memberLexemes ms).reverse ++ done) rest
  | [], _, _, _, _, _ => by
    rw [writeMembers]
    rfl
  | (k, v) :: ms, each, depth, done, rest, delimited => by
    have comma : scanChar? ',' .between = some (.between, [.comma]) := rfl
    obtain ⟨first, others⟩ := List.forall_mem_cons.1 each
    rw [writeMembers, memberLexemes, List.cons_append, lexFrom?_step comma]
    simp only [List.append_assoc]
    rw [lexFrom?_spaces (blank.newline _), lexFrom?_quote, lexFrom?_colon blank,
      lexFrom?_write v first _ _ (delimited.members sp _ ms),
      lexFrom?_writeMembers ms others _ _ delimited]
    simp only [List.reverse_cons, List.reverse_append, List.append_assoc, List.reverse_nil,
      List.nil_append, List.cons_append]

end

end

/-! ## Reading -/

/-- Only the open containers matter to a finished value. -/
theorem Reading.add_eq (r : Reading) (v : Json) : r.add v = add ⟨r.stack, .after, none⟩ v := by
  obtain ⟨stack, _, _⟩ := r
  match stack with
  | [] | .array _ :: _ | .object .. :: _ => rfl

/-- No value begins like the end of an array. -/
theorem run?_firstItem (v : Json) (st : List Open) (ls : List Lexeme) :
    Reading.run? ⟨st, .firstItem, none⟩ (v.lexemes ++ ls) =
      Reading.run? ⟨st, .value, none⟩ (v.lexemes ++ ls) := by
  match v with
  | .null | .bool _ | .num _ | .str _ | .illFormed => rfl
  | .arr [] | .arr (_ :: _) | .obj [] | .obj ((_, _) :: _) =>
    rw [lexemes]
    rfl

mutual

/-- The lexemes of a value put it into the innermost open container. -/
theorem run?_lexemes : ∀ (v : Json) (st : List Open) (ls : List Lexeme),
    Reading.run? ⟨st, .value, none⟩ (v.lexemes ++ ls) =
      Reading.run? (Reading.add ⟨st, .after, none⟩ v) ls
  | .null, st, ls | .bool _, st, ls | .num _, st, ls | .str _, st, ls | .illFormed, st, ls => by
    rw [lexemes]
    exact congrArg (Reading.run? · ls) (Reading.add_eq ⟨st, .value, none⟩ _)
  | .arr [], st, ls | .obj [], st, ls => by
    rw [lexemes]
    rfl
  | .arr (v :: vs), st, ls => by
    rw [lexemes]
    simp only [List.cons_append, List.append_assoc]
    show Reading.run? ⟨.array [] :: st, .firstItem, none⟩ _ = _
    rw [run?_firstItem, run?_lexemes v]
    exact run?_itemLexemes vs [v] st ls
  | .obj ((k, v) :: ms), st, ls => by
    rw [lexemes]
    simp only [List.cons_append, List.append_assoc]
    show Reading.run? ⟨.object [] true k :: st, .value, none⟩ _ = _
    rw [run?_lexemes v]
    exact run?_memberLexemes ms [(k, v)] k st ls

theorem run?_itemLexemes : ∀ (vs done : List Json) (st : List Open) (ls : List Lexeme),
    Reading.run? ⟨.array done :: st, .after, none⟩ (itemLexemes vs ++ .closing false :: ls) =
      Reading.run? (Reading.add ⟨st, .after, none⟩ (.arr (done.reverse ++ vs))) ls
  | [], done, st, ls => by
    rw [itemLexemes, List.append_nil]
    rfl
  | v :: vs, done, st, ls => by
    rw [itemLexemes]
    simp only [List.cons_append, List.append_assoc]
    show Reading.run? ⟨.array done :: st, .value, none⟩ _ = _
    rw [run?_lexemes v]
    show Reading.run? ⟨.array (v :: done) :: st, .after, none⟩ _ = _
    rw [run?_itemLexemes vs, List.reverse_cons, List.append_assoc, List.singleton_append]

theorem run?_memberLexemes : ∀ (ms done : List (String × Json)) (name : String) (st : List Open)
    (ls : List Lexeme),
    Reading.run? ⟨.object done true name :: st, .after, none⟩
        (memberLexemes ms ++ .closing true :: ls) =
      Reading.run? (Reading.add ⟨st, .after, none⟩ (.obj (done.reverse ++ ms))) ls
  | [], done, name, st, ls => by
    rw [memberLexemes, List.append_nil]
    rfl
  | (k, v) :: ms, done, name, st, ls => by
    rw [memberLexemes]
    simp only [List.cons_append, List.append_assoc]
    show Reading.run? ⟨.object done true k :: st, .value, none⟩ _ = _
    rw [run?_lexemes v]
    show Reading.run? ⟨.object ((k, v) :: done) true k :: st, .after, none⟩ _ = _
    rw [run?_memberLexemes ms, List.reverse_cons, List.append_assoc, List.singleton_append]

end

/-- What is written is read. -/
theorem parse?_write {sp : Spacing} (blank : sp.Blank) {v : Json} (plain : v.Plain) (depth : Nat) :
    parse? (write sp depth v) = some v := by
  have delimited : Delimited [] := fun _ mem => absurd mem (Option.not_mem_none _)
  have scanned : lex? (write sp depth v) = some v.lexemes := by
    have whole := lexFrom?_write blank v plain depth [] delimited
    rw [List.append_nil, List.append_nil] at whole
    rw [lex?, whole, lexFrom?, finish?, Option.map_some, List.reverse_nil, List.nil_append,
      List.reverse_reverse]
  have read := run?_lexemes v [] []
  rw [List.append_nil] at read
  rw [parse?, scanned]
  exact read

theorem parse?_compact {v : Json} (plain : v.Plain) : parse? v.compact.toList = some v := by
  rw [compact, String.toList_ofList]
  exact parse?_write Spacing.compact_blank plain 0

theorem parse?_pretty {v : Json} (plain : v.Plain) : parse? v.pretty.toList = some v := by
  rw [pretty, String.toList_ofList]
  exact parse?_write Spacing.indented_blank plain 0

end ProcMeter.Json
