import StorageCalls.Request.Context

namespace StorageCalls.Frames

def stack (fs : Frames) : List String := fs.entries.map (·.label)

structure Numbered (fs : Frames) : Prop where
  ascending : fs.entries.Pairwise fun f g => f.id < g.id
  below : ∀ f ∈ fs.entries, f.id < fs.next

variable {fs : Frames} {outer inner : List Frame} {f : Frame}

theorem Numbered.empty : empty.Numbered := ⟨.nil, by simp [Frames.empty]⟩

theorem Numbered.enter (h : fs.Numbered) (label : String) : (fs.enter label).Numbered where
  ascending := by
    refine List.pairwise_append.2 ⟨h.ascending, List.pairwise_singleton .., ?_⟩
    intro g hg g' hg'
    rw [List.mem_singleton.1 hg']
    exact h.below g hg
  below g hg := by
    obtain hold | hnew := List.mem_append.1 hg
    · exact Nat.lt_succ_of_lt (h.below g hold)
    · rw [List.mem_singleton.1 hnew]
      exact Nat.lt_succ_self _

theorem dropFirst_append {id : Nat} {outer inner : List Frame} (h : ∀ g ∈ outer, g.id ≠ id)
    (hf : f.id = id) : dropFirst id (outer ++ f :: inner) = outer ++ inner := by
  induction outer with
  | nil => rw [List.nil_append, dropFirst, if_pos hf, List.nil_append]
  | cons g outer ih =>
    have hg : g.id ≠ id := h g List.mem_cons_self
    rw [List.cons_append, dropFirst, if_neg hg, ih fun g' hg' => h g' (List.mem_cons_of_mem _ hg'),
      List.cons_append]

theorem Numbered.lt_of_split (h : fs.Numbered) (hs : fs.entries = outer ++ f :: inner) :
    ∀ g ∈ inner, f.id < g.id := by
  have hp := h.ascending
  rw [hs] at hp
  exact fun g hg => List.rel_of_pairwise_cons (List.pairwise_append.1 hp).2.1 hg

theorem Numbered.leave_split (h : fs.Numbered) (hs : fs.entries = outer ++ f :: inner) :
    fs.leave f.id = ⟨outer ++ inner, fs.next⟩ := by
  have hne : ∀ g ∈ inner.reverse, g.id ≠ f.id := fun g hg =>
    Nat.ne_of_gt (h.lt_of_split hs g (List.mem_reverse.1 hg))
  rw [leave, hs, List.reverse_append, List.reverse_cons, List.append_assoc, List.singleton_append,
    dropFirst_append hne rfl, List.reverse_append, List.reverse_reverse, List.reverse_reverse]

theorem Numbered.without (h : fs.Numbered) (hs : fs.entries = outer ++ f :: inner) :
    Numbered ⟨outer ++ inner, fs.next⟩ := by
  have hsub : (outer ++ inner).Sublist fs.entries := by
    rw [hs]
    exact (List.Sublist.refl outer).append (List.sublist_cons_self f inner)
  exact ⟨h.ascending.sublist hsub, fun g hg => h.below g (hsub.subset hg)⟩

theorem isInternal_iff : Frame.isInternal f ↔ internalMark.toList <+: f.label.toList :=
  List.isPrefixOf_iff_prefix

theorem labels_eq (fs : Frames) :
    fs.labels = fs.stack.filter fun label => ¬ internalMark.toList <+: label.toList := by
  rw [labels, stack, List.filter_map]
  congr 1
  apply List.filter_congr
  intro g _
  simp [← isInternal_iff]

end StorageCalls.Frames
