import ProcMeter.Procfs.Stat
import ProcMeter.Proofs.Numerals
import ProcMeter.Proofs.Words

/-! The stat line of a process, whatever its name. A text is a stat line in at most one way: the
name ends at the last closing parenthesis, so a name that holds parentheses, blanks or the text of
further fields is still told from the fields. What is read is just what the line shows, and the
line is read whenever it shows the fields. -/
namespace ProcMeter.Procfs

open ProcMeter.Text

namespace StatLine

/-- The words after the name show the fields of `f`. -/
structure Shows (ws : List (List Char)) (f : StatLine) : Prop where
  enough : 20 ≤ ws.length
  state : ∃ more, ws[0]? = some (f.state :: more)
  ppid : ∃ w, ws[1]? = some w ∧ int32? w = some f.ppid
  pgrp : ∃ w, ws[2]? = some w ∧ int32? w = some f.pgrp
  utime : ∃ w, ws[11]? = some w ∧ uint64? w = some f.utime
  stime : ∃ w, ws[12]? = some w ∧ uint64? w = some f.stime
  starttime : ∃ w, ws[19]? = some w ∧ uint64? w = some f.starttime

/-- `content` is a stat line of `f`: the name, in parentheses, between a text without an opening
one and a text without a closing one, which has the words that show the fields. -/
def Spells (content : List Char) (f : StatLine) : Prop :=
  ∃ before after ws, content = before ++ '(' :: (f.name.toList ++ ')' :: after) ∧
    '(' ∉ before ∧ ')' ∉ after ∧ Spaced isBlank after ws ∧ Shows ws f

theorem ofWords?_eq_some_iff {name : List Char} {ws : List (List Char)} {f : StatLine} :
    ofWords? name ws = some f ↔ f.name = String.ofList name ∧ Shows ws f := by
  simp only [ofWords?, Option.bind_eq_bind, Option.bind_eq_some_iff, List.head?_eq_some_iff,
    Option.some.injEq]
  constructor
  · rintro ⟨_, first, state, ⟨more, rfl⟩, _, second, ppid, readPpid, _, third, pgrp, readPgrp, _,
      twelfth, utime, readUtime, _, thirteenth, stime, readStime, _, last, start, readStart, rfl⟩
    exact ⟨rfl, (List.getElem?_eq_some_iff.1 last).1, ⟨more, first⟩, ⟨_, second, readPpid⟩,
      ⟨_, third, readPgrp⟩, ⟨_, twelfth, readUtime⟩, ⟨_, thirteenth, readStime⟩,
      ⟨_, last, readStart⟩⟩
  · rintro ⟨named, _, ⟨more, first⟩, ⟨_, second, readPpid⟩, ⟨_, third, readPgrp⟩,
      ⟨_, twelfth, readUtime⟩, ⟨_, thirteenth, readStime⟩, ⟨_, last, readStart⟩⟩
    refine ⟨_, first, _, ⟨more, rfl⟩, _, second, _, readPpid, _, third, _, readPgrp, _, twelfth, _,
      readUtime, _, thirteenth, _, readStime, _, last, _, readStart, ?_⟩
    rw [← named]

/-- The name and the words after it, by the first opening and the last closing parenthesis. -/
theorem parse?_of_parts {before name after : List Char} (opens : '(' ∉ before)
    (closes : ')' ∉ after) :
    parse? (before ++ '(' :: (name ++ ')' :: after)) = ofWords? name (words after) := by
  have first : cut? '(' (before ++ '(' :: (name ++ ')' :: after)) =
      some (before, name ++ ')' :: after) := cut?_eq_some_iff.2 ⟨rfl, opens⟩
  have last : cutLast? ')' (name ++ ')' :: after) = some (name, after) :=
    cutLast?_eq_some_iff.2 ⟨rfl, closes⟩
  simp only [parse?, first, last, Option.bind_eq_bind, Option.bind_some]

theorem exists_parts_of_parse? {content : List Char} {f : StatLine}
    (read : parse? content = some f) :
    ∃ before name after, content = before ++ '(' :: (name ++ ')' :: after) ∧ '(' ∉ before ∧
      ')' ∉ after ∧ ofWords? name (words after) = some f := by
  simp only [parse?, Option.bind_eq_bind, Option.bind_eq_some_iff] at read
  obtain ⟨⟨before, rest⟩, first, ⟨name, after⟩, last, read⟩ := read
  obtain ⟨rfl, opens⟩ := cut?_eq_some_iff.1 first
  obtain ⟨rfl, closes⟩ := cutLast?_eq_some_iff.1 last
  exact ⟨before, name, after, rfl, opens, closes, read⟩

theorem parse?_eq_some_iff {content : List Char} {f : StatLine} :
    parse? content = some f ↔ Spells content f := by
  constructor
  · intro read
    obtain ⟨before, name, after, rfl, opens, closes, read⟩ := exists_parts_of_parse? read
    obtain ⟨named, shown⟩ := ofWords?_eq_some_iff.1 read
    refine ⟨before, after, words after, ?_, opens, closes, runs_eq_iff.1 rfl, shown⟩
    rw [named, String.toList_ofList]
  · rintro ⟨before, after, ws, rfl, opens, closes, spaced, shown⟩
    have found : words after = ws := runs_eq_iff.2 spaced
    rw [parse?_of_parts opens closes, found, ofWords?_eq_some_iff, String.ofList_toList]
    exact ⟨rfl, shown⟩

/-- The two parentheses by their places. A name lies between them only when the first opening one
comes before the last closing one. -/
theorem parse?_of_places {content : List Char} {o c : Nat} (opens : content[o]? = some '(')
    (first : ∀ i < o, content[i]? ≠ some '(') (closes : content[c]? = some ')')
    (last : ∀ i, c < i → content[i]? ≠ some ')') :
    (c < o ∧ parse? content = none) ∨
      (o < c ∧ c < content.length ∧ parse? content =
        ofWords? ((content.take c).drop (o + 1)) (words (content.drop (c + 1)))) := by
  have opensAt := (List.getElem?_eq_some_iff.1 opens).choose
  have closesAt := (List.getElem?_eq_some_iff.1 closes).choose
  have before : '(' ∉ content.take o := by
    intro mem
    obtain ⟨i, less, same⟩ := List.mem_take_iff_getElem.1 mem
    exact first i (by omega) (List.getElem?_eq_some_iff.2 ⟨_, same⟩)
  have after : ')' ∉ content.drop (c + 1) := by
    intro mem
    obtain ⟨i, less, same⟩ := List.mem_drop_iff_getElem.1 mem
    exact last (c + 1 + i) (by omega) (List.getElem?_eq_some_iff.2 ⟨_, same⟩)
  have whole : content = content.take o ++ '(' :: content.drop (o + 1) := by
    have at_o := (List.getElem?_eq_some_iff.1 opens).choose_spec
    rw [← at_o, ← List.drop_eq_getElem_cons opensAt, List.take_append_drop]
  have different : o ≠ c := by
    intro same
    rw [same, closes] at opens
    exact absurd opens (by decide)
  rcases Nat.lt_or_ge c o with behind | ahead
  · refine .inl ⟨behind, ?_⟩
    have noClose : cutLast? ')' (content.drop (o + 1)) = none := by
      refine cutLast?_eq_none_iff.2 fun mem => after ?_
      exact (List.drop_sublist_drop_left content (by omega : c + 1 ≤ o + 1)).subset mem
    have firstCut : cut? '(' content = some (content.take o, content.drop (o + 1)) :=
      cut?_eq_some_iff.2 ⟨whole, before⟩
    simp only [parse?, firstCut, noClose, Option.bind_eq_bind, Option.bind_some, Option.bind_none]
  · have inside : o < c := by omega
    refine .inr ⟨inside, closesAt, ?_⟩
    have name : content.drop (o + 1) =
        (content.take c).drop (o + 1) ++ ')' :: content.drop (c + 1) := by
      have at_c := (List.getElem?_eq_some_iff.1 closes).choose_spec
      rw [← at_c, ← List.drop_eq_getElem_cons closesAt]
      conv_lhs => rw [← List.take_append_drop c content]
      rw [List.drop_append_of_le_length (by rw [List.length_take]; omega)]
    conv_lhs => rw [whole, name]
    exact parse?_of_parts before after

section
variable {ws ws' : List (List Char)}

/-- Six words are read, and of the first of them one letter. -/
theorem ofWords?_congr (name : List Char)
    (state : ws[0]?.bind List.head? = ws'[0]?.bind List.head?)
    (fields : ∀ i ∈ [1, 2, 11, 12, 19], ws[i]? = ws'[i]?) :
    ofWords? name ws = ofWords? name ws' := by
  simp only [List.forall_mem_cons] at fields
  obtain ⟨second, third, twelfth, thirteenth, last, -⟩ := fields
  have letter (k : Char → Option StatLine) :
      (ws[0]?.bind fun w => w.head?.bind k) = ws'[0]?.bind fun w => w.head?.bind k := by
    rw [← Option.bind_assoc, ← Option.bind_assoc, state]
  simp only [ofWords?, Option.bind_eq_bind, second, third, twelfth, thirteenth, last]
  exact letter _

end

/-! Writing a stat line. -/

/-- Word `n` after the name. `other` has the words that are not read. -/
def word (f : StatLine) (other : Nat → List Char) : Nat → List Char
  | 0 => [f.state]
  | 1 => (toString f.ppid).toList
  | 2 => (toString f.pgrp).toList
  | 11 => (toString f.utime).toList
  | 12 => (toString f.stime).toList
  | 19 => (toString f.starttime).toList
  | n => other n

/-- A stat line: the process id, the name and twenty words, and what follows them. -/
def render (f : StatLine) (pid : List Char) (other : Nat → List Char) (beyond : List Char) :
    List Char :=
  pid ++ ' ' :: '(' :: (f.name.toList ++ ')' ::
    ((List.range 20).flatMap (fun n => ' ' :: f.word other n) ++ beyond))

/-- A character that stays in its word and does not end the name. -/
def IsFieldChar (c : Char) : Prop := isBlank c = false ∧ c ≠ ')'

/-- A word that can stand after the name. -/
def IsField (w : List Char) : Prop := w ≠ [] ∧ ∀ c ∈ w, IsFieldChar c

theorem isFieldChar_of_isDecimal {c : Char} (decimal : isDecimal c = true) : IsFieldChar c := by
  have range : c = '-' ∨ 48 ≤ c.toNat ∧ c.toNat ≤ 57 := by
    rcases Bool.or_eq_true_iff.1 decimal with minus | digit
    · exact .inl (eq_of_beq minus)
    · exact .inr ((Char.isDigit_iff_toNat).1 digit)
  rcases range with rfl | ⟨least, greatest⟩
  · exact ⟨by decide, by decide⟩
  · refine ⟨?_, ?_⟩
    · simp only [isBlank, Bool.or_eq_false_iff, Bool.and_eq_false_iff, decide_eq_false_iff_not,
        beq_eq_false_iff_ne]
      omega
    · rintro rfl
      exact absurd least (by decide)

section
variable {f : StatLine} {other : Nat → List Char} (letter : IsFieldChar f.state)
  (others : ∀ n, IsField (other n))

include letter others in
theorem isField_word (n : Nat) : IsField (f.word other n) := by
  have integer (m : Int32) : IsField (toString m).toList := by
    refine ⟨?_, fun c mem => isFieldChar_of_isDecimal (isDecimal_of_mem_int32 mem)⟩
    rw [toList_toString_int32]
    split
    · exact List.cons_ne_nil _ _
    · exact toDigits_ne_nil _
  have natural (m : UInt64) : IsField (toString m).toList := by
    refine ⟨?_, fun c mem => isFieldChar_of_isDecimal (isDecimal_of_mem_uint64 mem)⟩
    rw [toList_toString_uint64]
    exact toDigits_ne_nil _
  unfold word
  split
  · exact ⟨List.cons_ne_nil _ _, fun c mem => by rwa [List.mem_singleton.1 mem]⟩
  · exact integer _
  · exact integer _
  · exact natural _
  · exact natural _
  · exact natural _
  · exact others _

include letter others in
/-- What is written is read, whatever the name and the words that are not read. -/
theorem parse?_render {pid beyond : List Char} (opens : '(' ∉ pid) (closes : ')' ∉ beyond)
    (ended : ∀ c ∈ beyond.head?, isBlank c = true) :
    parse? (f.render pid other beyond) = some f := by
  have fields := isField_word letter others
  have lead : '(' ∉ pid ++ [' '] := by
    simp only [List.mem_append, List.mem_singleton, opens, false_or]
    decide
  have noClose : ')' ∉ ((List.range 20).map (f.word other)).flatMap (' ' :: ·) ++ beyond := by
    intro mem
    rcases List.mem_append.1 mem with inside | behind
    · obtain ⟨w, member, mem⟩ := List.mem_flatMap.1 inside
      obtain ⟨n, -, rfl⟩ := List.mem_map.1 member
      rcases List.mem_cons.1 mem with blank | mem
      · exact absurd blank (by decide)
      · exact ((fields n).2 _ mem).2 rfl
    · exact closes behind
  have solid : ∀ w ∈ (List.range 20).map (f.word other), w ≠ [] ∧ ∀ c ∈ w, isBlank c = false := by
    intro w member
    obtain ⟨n, -, rfl⟩ := List.mem_map.1 member
    exact ⟨(fields n).1, fun c mem => ((fields n).2 c mem).1⟩
  have spaced := spaced_flatMap (b := ' ') (by decide) solid ended
  refine parse?_eq_some_iff.2 ⟨pid ++ [' '], _, _, ?_, lead, noClose, spaced, ?_⟩
  · simp only [render, List.flatMap_map, List.append_assoc, List.singleton_append]
  · exact ⟨by simp, ⟨[], rfl⟩, ⟨_, rfl, int32?_toString _⟩, ⟨_, rfl, int32?_toString _⟩,
      ⟨_, rfl, uint64?_toString _⟩, ⟨_, rfl, uint64?_toString _⟩, ⟨_, rfl, uint64?_toString _⟩⟩
end

/-- Stat lines are read exactly. A text is read as the fields that it spells, and only if it spells
some. The name lies between the first opening and the last closing parenthesis, and there is none
when these stand the other way round. A line that is written comes back, whatever its name, and two
lines with one name and the same words at the places that are read are read alike. -/
theorem reading_exact :
    (∀ content f, parse? content = some f ↔ Spells content f) ∧
    (∀ content, parse? content = none ↔ ∀ f, ¬ Spells content f) ∧
    (∀ (content : List Char) (o c : Nat), content[o]? = some '(' →
      (∀ i < o, content[i]? ≠ some '(') → content[c]? = some ')' →
      (∀ i, c < i → content[i]? ≠ some ')') →
        (c < o ∧ parse? content = none) ∨
          (o < c ∧ c < content.length ∧ parse? content =
            ofWords? ((content.take c).drop (o + 1)) (words (content.drop (c + 1))))) ∧
    (∀ (f : StatLine) (pid : List Char) (other : Nat → List Char) (beyond : List Char),
      '(' ∉ pid → IsFieldChar f.state → (∀ n, IsField (other n)) → ')' ∉ beyond →
      (∀ c ∈ beyond.head?, isBlank c = true) → parse? (f.render pid other beyond) = some f) ∧
    (∀ before before' name after after' : List Char, '(' ∉ before → '(' ∉ before' →
      ')' ∉ after → ')' ∉ after' →
      (words after)[0]?.bind List.head? = (words after')[0]?.bind List.head? →
      (∀ i ∈ [1, 2, 11, 12, 19], (words after)[i]? = (words after')[i]?) →
        parse? (before ++ '(' :: (name ++ ')' :: after)) =
          parse? (before' ++ '(' :: (name ++ ')' :: after'))) := by
  refine ⟨fun content f => parse?_eq_some_iff, fun content => ?_, ?_, ?_, ?_⟩
  · simp only [Option.eq_none_iff_forall_ne_some, ne_eq, parse?_eq_some_iff]
  · exact fun content o c opens first closes last => parse?_of_places opens first closes last
  · exact fun f pid other beyond opens letter others closes ended =>
      parse?_render letter others opens closes ended
  · intro before before' name after after' opens opens' closes closes' state fields
    rw [parse?_of_parts opens closes, parse?_of_parts opens' closes']
    exact ofWords?_congr name state fields

/-- A name that goes on like a stat line is still told from the fields, also by the places of the
parentheses. A line that differs in what is not read is read alike. -/
theorem imitating_name_read :
    let f : StatLine := ⟨"a) R 1 (b\n)", 'S', -7, 42, 900, 0, 500⟩
    let line := f.render ['4', '2'] (fun _ => ['0']) [' ', '9']
    let other := f.render ['x'] (fun _ => ['y']) []
    line = "42 (a) R 1 (b\n)) S -7 42 0 0 0 0 0 0 0 0 900 0 0 0 0 0 0 0 500 9".toList ∧
      IsFieldChar f.state ∧ IsField ['0'] ∧ parse? line = some f ∧ Spells line f ∧
      parse? line = ofWords? f.name.toList (words (line.drop 16)) ∧ parse? other = parse? line ∧
      parse? [')', '('] = none := by
  intro f line other
  obtain ⟨spelled, -, places, written, alike⟩ := reading_exact
  have letter : IsFieldChar f.state := ⟨by decide, by decide⟩
  have zero : IsField ['0'] := ⟨by decide, List.forall_mem_singleton.2 ⟨rfl, by decide⟩⟩
  have ended : ∀ c ∈ [' ', '9'].head?, isBlank c = true := by
    rintro _ ⟨⟩
    rfl
  have read : parse? line = some f :=
    written f _ _ _ (by decide) letter (fun _ => zero) (by decide) ended
  have noClose : ')' ∉ line.drop 16 := by decide +kernel
  have between := places line 3 15 (by decide +kernel) (by decide +kernel) (by decide +kernel)
    fun i behind same => noClose <| by
      obtain ⟨n, rfl⟩ := Nat.exists_eq_add_of_le (Nat.succ_le_of_lt behind)
      exact List.mem_of_getElem? (List.getElem?_drop.trans same)
  have same : parse? other = parse? line :=
    alike ['x', ' '] ['4', '2', ' '] f.name.toList
      ((List.range 20).flatMap (fun n => ' ' :: f.word (fun _ => ['y']) n) ++ [])
      ((List.range 20).flatMap (fun n => ' ' :: f.word (fun _ => ['0']) n) ++ [' ', '9'])
      (by decide) (by decide) (by decide +kernel) (by decide +kernel) (by decide +kernel)
      (by decide +kernel)
  refine ⟨by decide +kernel, letter, zero, read, (spelled _ f).1 read, ?_, same, by decide +kernel⟩
  rcases between with ⟨behind, -⟩ | ⟨-, -, named⟩
  · exact absurd behind (by decide)
  · have name : (line.take 15).drop 4 = f.name.toList := by decide +kernel
    rwa [name] at named

end StatLine

end ProcMeter.Procfs
