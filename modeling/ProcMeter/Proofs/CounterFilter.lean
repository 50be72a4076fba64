import ProcMeter.Proofs.CounterFiles

/-! Whitelists of counters. Filtering keeps exactly the counters that some pattern accepts. It does
not matter whether counters are filtered as they come or once all files are read, as what a file
adds to a counter does not depend on any other counter. -/
namespace ProcMeter.Network

variable {m m' : NetworkCounters} {whitelist whitelist' : Matcher} {title name : String}

theorem accepts_iff : whitelist.accepts name = true ↔ ∃ p ∈ whitelist.patterns, p name = true :=
  List.any_eq_true

theorem value?_restrict_eq_some_iff {v : Int64} :
    value? (restrict m whitelist) title name = some v ↔
      value? m title name = some v ∧ ∃ p ∈ whitelist.patterns, p name = true := by
  rw [value?_restrict, ← accepts_iff]
  split
  · rename_i accepted
    simp [accepted]
  · rename_i refused
    simp [refused]

theorem mem_of_mem_restrict (member : title ∈ restrict m whitelist) : title ∈ m := by
  have there := Std.ExtTreeMap.isSome_getElem?_iff_mem.mpr member
  rw [getElem?_restrict] at there
  rw [← Std.ExtTreeMap.isSome_getElem?_iff_mem]
  cases found : m[title]? with
  | none => simp [found] at there
  | some s => rfl

/-- Only the names that are accepted count, and not by which pattern. -/
theorem restrict_congr (same : ∀ name, whitelist.accepts name = whitelist'.accepts name)
    (m : NetworkCounters) : restrict m whitelist = restrict m whitelist' := by
  simp only [restrict, same]

theorem restrict_agrees (m : NetworkCounters) (whitelist : Matcher) :
    Agree whitelist (restrict m whitelist) m := by
  intro title name accepted
  rw [value?_restrict, if_pos accepted]

/-- A file adds the same to counters that agree. -/
theorem Agree.parseInto (agree : Agree whitelist m m') (content : List Char) :
    Agree whitelist (Network.parseInto m content) (Network.parseInto m' content) := by
  intro title name accepted
  rw [parseInto_eq, parseInto_eq, value?_foldl, value?_foldl, agree title name accepted]

/-- Filtering is exact. A counter is kept, with its value, if and only if some pattern accepts its
name; the sections that are left were there before and have a counter. Filtering again changes
nothing, nor does the order of the patterns; and counters that are filtered before a file is added,
and after it, are the same as those filtered after it only. -/
theorem filtering_projects (m : NetworkCounters) (whitelist : Matcher) :
    (∀ title name v, value? (restrict m whitelist) title name = some v ↔
      value? m title name = some v ∧ ∃ p ∈ whitelist.patterns, p name = true) ∧
    (∀ title, title ∈ restrict m whitelist → title ∈ m) ∧
    (∀ (title : String) (s : Dict Int64), (restrict m whitelist)[title]? = some s → s ≠ ∅) ∧
    restrict (restrict m whitelist) whitelist = restrict m whitelist ∧
    (∀ whitelist' : Matcher, whitelist'.patterns.Perm whitelist.patterns →
      restrict m whitelist' = restrict m whitelist) ∧
    ∀ content, restrict (parseInto (restrict m whitelist) content) whitelist =
      restrict (parseInto m content) whitelist := by
  refine ⟨fun _ _ _ => value?_restrict_eq_some_iff, fun _ => mem_of_mem_restrict, ?_, ?_, ?_, ?_⟩
  · rintro title s found rfl
    have filled := restrict_filled title ∅ found
    simp at filled
  · exact restrict_eq_iff.mpr (restrict_agrees m whitelist)
  · intro whitelist' perm
    exact restrict_congr (fun _ => perm.any_eq) m
  · intro content
    exact restrict_eq_iff.mpr ((restrict_agrees m whitelist).parseInto content)

/-- A section is emptied by filtering, and comes back with the next file. -/
theorem emptied_filtering_projects :
    let m : NetworkCounters :=
      .ofList [("ip", .ofList [("InOctets", 1), ("OutOctets", 2)]), ("tcp", .ofList [("MaxConn", -1)])]
    let whitelist : Matcher := ⟨[(· == "InOctets"), (· == "ActiveOpens")]⟩
    let reversed : Matcher := ⟨[(· == "ActiveOpens"), (· == "InOctets")]⟩
    let content := "Tcp: ActiveOpens MaxConn\nTcp: 7 8\n".toList
    reversed.patterns.Perm whitelist.patterns ∧
      restrict m reversed = restrict m whitelist ∧ "tcp" ∉ restrict m whitelist ∧
      restrict (parseInto (restrict m whitelist) content) whitelist =
        restrict (parseInto m content) whitelist ∧
      value? (restrict (parseInto m content) whitelist) "tcp" "ActiveOpens" = some 7 := by
  intro m whitelist reversed content
  have perm : reversed.patterns.Perm whitelist.patterns := .swap _ _ _
  obtain ⟨_, _, _, _, orders, commutes⟩ := filtering_projects m whitelist
  exact ⟨perm, orders reversed perm, by decide +kernel, commutes content, by decide +kernel⟩

end ProcMeter.Network
