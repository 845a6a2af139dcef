import LoRaNode.Lwip.Packet

namespace loranode.lwip

theorem misuse_touch (h : Heap) (p : Nat) : h.misuse <+: (h.touch p).misuse := by
  unfold Heap.touch
  split
  · exact List.prefix_append ..
  · exact List.prefix_rfl

/-- What went wrong stays on record. -/
theorem misuse_pbuf_free_loop (ps : List Nat) (h : Heap) :
    h.misuse <+: (pbuf_free_loop ps h).misuse := by
  induction ps generalizing h with
  | nil => exact List.prefix_rfl
  | cons p ps ih =>
    let h₁ : Heap :=
      if (h.pbufs p).ref = 0 then { h with misuse := h.misuse ++ [.free_unreferenced p] } else h
    have hrecord : h.misuse <+: h₁.misuse := by
      simp only [h₁]
      split
      · exact List.prefix_append ..
      · exact List.prefix_rfl
    rw [pbuf_free_loop]
    split
    · refine hrecord.trans (.trans ?_ (ih _))
      split <;> exact List.prefix_rfl
    · exact hrecord

theorem misuse_pbuf_free (h : Heap) (p : pbuf_ptr) : h.misuse <+: (pbuf_free h p).misuse :=
  misuse_pbuf_free_loop _ h

/-- Freeing a chain leaves the other buffers alone. -/
theorem pbuf_free_loop_pbufs_of_not_mem {ps : List Nat} {k : Nat} (h : Heap) (hk : k ∉ ps) :
    (pbuf_free_loop ps h).pbufs k = h.pbufs k := by
  induction ps generalizing h with
  | nil => rfl
  | cons p ps ih =>
    rw [List.mem_cons, not_or] at hk
    have hother : ∀ (h' : Heap) (b : pbuf), h'.pbufs = h.pbufs →
        (h'.set p b).pbufs k = h.pbufs k :=
      fun h' b hsame => by rw [Heap.set_pbufs_of_ne _ hk.1, hsame]
    have hrecord : (if (h.pbufs p).ref = 0 then
        { h with misuse := h.misuse ++ [.free_unreferenced p] } else h).pbufs = h.pbufs := by
      split <;> rfl
    rw [pbuf_free_loop]
    split
    · rw [ih _ hk.2]
      split
      · exact hother _ _ hrecord
      · exact hother _ _ hrecord
    · exact hother _ _ hrecord

/-- A buffer that is freed once more than it is referenced is found out. -/
theorem misuse_pbuf_free_loop_cons {p : Nat} (ps : List Nat) {h : Heap}
    (href : (h.pbufs p).ref = 0) :
    h.misuse ++ [.free_unreferenced p] <+: (pbuf_free_loop (p :: ps) h).misuse := by
  have hwrap : sub16 0 1 ≠ 0 := by decide
  simp only [pbuf_free_loop, href, if_true, if_neg hwrap]
  exact List.prefix_rfl

/-- The loop goes on behind a buffer whose last reference it drops. -/
theorem pbuf_free_loop_cons {p : Nat} (ps : List Nat) {h : Heap} (href : (h.pbufs p).ref = 1) :
    ∃ h', pbuf_free_loop (p :: ps) h = pbuf_free_loop ps h' ∧ h'.misuse = h.misuse ∧
      h'.handles = h.handles ∧
      h'.pbufs = Function.update h.pbufs p { h.pbufs p with ref := 0 } := by
  have hlast : sub16 1 1 = 0 := rfl
  refine ⟨_, by simp only [pbuf_free_loop, href, hlast, if_true]; rfl, ?_, ?_, ?_⟩ <;>
    · rw [if_neg Nat.one_ne_zero]
      split <;> rfl

/-- Dropping the last reference to a contiguous packet. -/
theorem pbuf_free_contiguous {h : Heap} {p : Nat} (hp : h.Contiguous p)
    (href : (h.pbufs p).ref = 1) :
    (pbuf_free h (some p)).misuse = h.misuse ∧
      (pbuf_free h (some p)).pbufs = Function.update h.pbufs p { h.pbufs p with ref := 0 } := by
  obtain ⟨h', hloop, hmisuse, -, hpbufs⟩ := pbuf_free_loop_cons [] href
  rw [pbuf_free, hp.chain, hloop]
  exact ⟨hmisuse, hpbufs⟩

theorem misuse_pbuf_free_unreferenced {h : Heap} {p : Nat} (hpos : 0 < h.handles)
    (href : (h.pbufs p).ref = 0) :
    h.misuse ++ [.free_unreferenced p] <+: (pbuf_free h (some p)).misuse := by
  obtain ⟨n, hn⟩ := Nat.exists_eq_succ_of_ne_zero (Nat.ne_of_gt hpos)
  rw [pbuf_free, Heap.chain, hn]
  exact misuse_pbuf_free_loop_cons _ href

/-- From `h` to `h'` buffers have been read, and nothing else. -/
structure Heap.OnlyReads (h h' : Heap) : Prop where
  pbufs : h'.pbufs = h.pbufs
  handles : h'.handles = h.handles
  misuse : h.misuse <+: h'.misuse

theorem Heap.OnlyReads.refl (h : Heap) : h.OnlyReads h :=
  ⟨rfl, rfl, List.prefix_rfl⟩

theorem Heap.OnlyReads.trans {h₁ h₂ h₃ : Heap} (h : h₁.OnlyReads h₂) (h' : h₂.OnlyReads h₃) :
    h₁.OnlyReads h₃ :=
  ⟨h'.pbufs.trans h.pbufs, h'.handles.trans h.handles, h.misuse.trans h'.misuse⟩

theorem Heap.OnlyReads.chain {h h' : Heap} (hread : h.OnlyReads h') (p : pbuf_ptr) :
    h'.chain p = h.chain p := by
  rw [Heap.chain, hread.handles]
  exact Heap.walk_congr fun k _ => by rw [hread.pbufs]

theorem onlyReads_touch (h : Heap) (p : Nat) : h.OnlyReads (h.touch p) :=
  ⟨h.touch_pbufs p, h.touch_handles p, misuse_touch h p⟩

theorem onlyReads_pbuf_copy_partial_loop (ps : List Nat) (h : Heap) (dst : Mem)
    (left len offset : Nat) :
    h.OnlyReads ( pbuf_copy_partial_loop ps h dst left len offset).2.2 := by
  induction ps generalizing h dst left len offset with
  | nil => exact .refl h
  | cons p ps ih =>
    simp only [pbuf_copy_partial_loop]
    split
    · exact .refl h
    · split <;> exact (onlyReads_touch h p).trans (ih ..)

theorem onlyReads_pbuf_copy_partial (h : Heap) (p : pbuf_ptr) (dst : Mem) (len offset : Nat) :
    h.OnlyReads ( pbuf_copy_partial h p dst len offset).2.2 :=
  onlyReads_pbuf_copy_partial_loop ..

end loranode.lwip
