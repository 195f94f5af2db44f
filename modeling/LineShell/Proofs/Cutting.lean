import LineShell.Proofs.Changes
import LineShell.Proofs.Decoding
import LineShell.Proofs.Segments

/-!
Cutting what is run off behind one of its segments. The front of a line has the first segments of
the line, and the front of a stream has its first lines and the front of the next one.
-/
namespace LineShell

namespace Segment

theorem Canonical.of_append {front back : List Segment} (h : Canonical (front ++ back))
    (hne : front ≠ []) : Canonical front := by
  obtain ⟨first, rest, rfl⟩ := List.exists_cons_of_ne_nil hne
  obtain ⟨text, more, he, hgates⟩ := h.first
  obtain ⟨rfl, rfl⟩ := List.cons.inj he
  refine ⟨⟨text, rest, rfl, fun s hs => hgates s (List.mem_append_left _ hs)⟩, fun s hs => ?_, ?_⟩
  · exact h.plain s (List.mem_append_left _ hs)
  · exact (List.isChain_append.1 h.apart).1

end Segment

namespace Reader

end Reader
end LineShell
