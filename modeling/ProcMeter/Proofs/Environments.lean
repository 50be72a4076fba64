import ProcMeter.Proofs.NulTexts

/-! Environments. Bytes on either side of a NUL are read apart, and what stands later overrides
what stands earlier. So every variable has the value that it is given last, whatever else lies
between: empty texts, and bytes without an equals sign. -/
namespace ProcMeter.Procfs

open Text.Utf8 (Bytes encode decodeLossy)

variable {bs : Bytes}

/-- A variable as it can be written: the first equals sign ends its name, and NUL its value. -/
structure Variable where
  name : String
  value : String
  unequal : '=' ∉ name.toList
  nameFree : NulFree name
  valueFree : NulFree value

/-- Bytes that hold no variable. -/
structure Noise where
  bytes : Bytes
  unbroken : 0 ∉ bytes
  unequal : 0x3D ∉ bytes

/-- What may stand before a NUL. -/
inductive Segment where
  | held (v : Variable)
  | noise (n : Noise)

namespace Segment

def bytes : Segment → Bytes
  | held v => encode (v.name ++ "=" ++ v.value)
  | noise n => n.bytes

/-- Name and value of the variable, where there is one. -/
def binding? : Segment → Option (String × String)
  | held v => some (v.name, v.value)
  | noise _ => none

end Segment

/-- The content of an environment file: segments, each with a NUL after it, and an unended rest. -/
def environ (segments : List Segment) (rest : Noise) : Bytes :=
  nulEnded (segments.map Segment.bytes) ++ rest.bytes

/-- The bindings of some bytes, from first to last. -/
def bindings (content : Bytes) : List (String × String) := (nulTexts content).filterMap binding?

theorem parseEnviron_get? (content : Bytes) (name : String) :
    (parseEnviron content)[name]? = (bindings content).reverse.lookup name :=
  Dict.getElem?_ofList (bindings content) name

theorem bindings_append (a b : Bytes) : bindings (a ++ 0 :: b) = bindings a ++ bindings b := by
  rw [bindings, nulTexts_append, List.filterMap_append]
  rfl

/-- Damage never makes an equals sign, so there is none in the text of bytes that have none. -/
theorem Noise.bindings (n : Noise) : bindings n.bytes = [] := by
  rw [Procfs.bindings]
  by_cases none : n.bytes = []
  · rw [none, nulTexts_nil, List.filterMap_nil]
  · rw [nulTexts_of_unbroken none n.unbroken, List.filterMap_cons_none, List.filterMap_nil]
    rw [binding?, Option.map_eq_none_iff, Text.cut?_eq_none_iff]
    intro member
    have encoded : 0x3D ∈ String.utf8EncodeChar '=' := by decide
    exact n.unequal (Text.Utf8.mem_of_mem_decodeLossy (by decide) member encoded)

theorem Variable.bindings (v : Variable) :
    bindings (Segment.held v).bytes = [(v.name, v.value)] := by
  have free : NulFree (v.name ++ "=" ++ v.value) := by
    have apart : '\x00' ∉ "=".toList := by decide
    simp only [NulFree, String.toList_append, List.mem_append, not_or]
    exact ⟨⟨v.nameFree, apart⟩, v.valueFree⟩
  have some : v.name ++ "=" ++ v.value ≠ "" := by
    intro none
    have characters := congrArg String.toList none
    simp at characters
  have whole : (v.name ++ "=" ++ v.value).toList = v.name.toList ++ '=' :: v.value.toList := by
    simp
  have cut : Text.cut? '=' (v.name.toList ++ '=' :: v.value.toList) =
      .some (v.name.toList, v.value.toList) := Text.cut?_eq_some_iff.mpr ⟨rfl, v.unequal⟩
  rw [Procfs.bindings, Segment.bytes, free.nulTexts_encode, if_neg some, whole]
  simp [binding?, cut]

theorem Segment.bindings (s : Segment) : bindings s.bytes = s.binding?.toList := by
  cases s with
  | held v => exact v.bindings
  | noise n => exact n.bindings

theorem bindings_environ (segments : List Segment) (rest : Noise) :
    bindings (environ segments rest) = segments.filterMap Segment.binding? := by
  induction segments with
  | nil => exact rest.bindings
  | cons s segments ih =>
    have split : environ (s :: segments) rest = s.bytes ++ 0 :: environ segments rest := by
      simp [environ, nulEnded]
    rw [split, bindings_append, s.bindings, ih]
    cases s <;> rfl

/-- The environment of two parts with a NUL between them is that of the first part, overridden by
that of the second. Hence an environment that is written holds for each name the value that the name
is given last, and nothing else. -/
theorem environ_reads_back :
    (∀ (a b : Bytes) (name : String),
      (parseEnviron (a ++ 0 :: b))[name]? =
        (parseEnviron b)[name]?.or (parseEnviron a)[name]?) ∧
    ∀ (segments : List Segment) (rest : Noise) (name : String),
      (parseEnviron (environ segments rest))[name]? =
        (segments.filterMap Segment.binding?).reverse.lookup name := by
  constructor
  · intro a b name
    rw [parseEnviron_get?, parseEnviron_get?, parseEnviron_get?, bindings_append,
      List.reverse_append, List.lookup_append]
  · intro segments rest name
    rw [parseEnviron_get?, bindings_environ]

/-- A name may be empty, and a value may have equals signs. -/
example :
    (parseEnviron (environ
      [.held ⟨"", "x=y", by decide, by decide, by decide⟩, .noise ⟨[], by decide, by decide⟩,
        .held ⟨"", "", by decide, by decide, by decide⟩, .noise ⟨[0xC3], by decide, by decide⟩,
        .held ⟨"PATH", "/bin=1", by decide, by decide, by decide⟩]
      ⟨[0x41], by decide, by decide⟩)).toList = [("", ""), ("PATH", "/bin=1")] := by
  decide +kernel

end ProcMeter.Procfs
