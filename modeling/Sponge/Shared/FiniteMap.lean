import Mathlib.Data.List.AList

set_option autoImplicit false

namespace Shared

variable {α β : Type}

def retain (keep : α → β → Bool) (map : AList fun _ : α => β) : AList fun _ : α => β where
  entries := map.entries.filter fun entry => keep entry.1 entry.2
  nodupKeys := map.nodupKeys.sublist List.filter_sublist

theorem lookup_retain [DecidableEq α] (keep : α → β → Bool) (map : AList fun _ : α => β) (key : α) :
    (retain keep map).lookup key = (map.lookup key).filter (keep key) := by
  apply Option.ext
  intro value
  rw [← Option.mem_def, AList.mem_lookup_iff, Option.filter_eq_some_iff, ← Option.mem_def, AList.mem_lookup_iff]
  exact List.mem_filter

end Shared
