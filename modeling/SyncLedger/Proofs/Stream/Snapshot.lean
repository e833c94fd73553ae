import Mathlib.Data.Prod.Lex
import Mathlib.Order.WithBot
import SyncLedger.Proofs.Text.Order
import SyncLedger.Stream.Store

/-!
# The snapshot of a store

A snapshot lists the statuses of a store in the order of their keys. That order is total and
tells different keys apart (`StreamKey.before_iff_rank_lt`, `StreamKey.rank_injective`), so a
store has only one list that is in order and has its statuses: the snapshot does not depend on
the order in which the streams came up, or on any order in which the table might be read.
-/

namespace SyncLedger

/-! ## The order of keys -/

namespace StreamKey

/-- The place of a namespace: a missing one comes before all others. -/
def spaceRank (space : Option String) : WithBot (List Nat) :=
  space.elim ⊥ fun name => ↑(Text.bytes name)

/-- The place of a key in the order of keys: by its connection, then by its namespace, then by
its name, where texts are compared byte by byte. -/
def rank (k : StreamKey) : Nat ×ₗ WithBot (List Nat) ×ₗ List Nat :=
  toLex (k.connectionId.toNat, toLex (spaceRank k.space, Text.bytes k.name))

theorem spaceRank_injective : Function.Injective spaceRank := by
  intro a b h
  cases a with
  | none =>
      cases b with
      | none => rfl
      | some b => exact absurd h WithBot.bot_ne_coe
  | some a =>
      cases b with
      | none => exact absurd h WithBot.coe_ne_bot
      | some b => rw [Text.bytes_injective (WithBot.coe_injective h)]

theorem spaceBefore_iff (a b : Option String) :
    spaceBefore a b = true ↔ spaceRank a < spaceRank b := by
  cases a with
  | none =>
      cases b with
      | none => simp [spaceBefore]
      | some b => exact iff_of_true rfl (WithBot.bot_lt_coe _)
  | some a =>
      cases b with
      | none => exact iff_of_false Bool.false_ne_true not_lt_bot
      | some b =>
          rw [spaceBefore, decide_eq_true_iff, Text.lt_iff_bytes_lt]
          exact WithBot.coe_lt_coe.symm

theorem rank_injective : Function.Injective rank := by
  intro a b h
  obtain ⟨hconnection, hrest⟩ := Prod.ext_iff.mp (toLex_inj.mp h)
  obtain ⟨hspace, hname⟩ := Prod.ext_iff.mp (toLex_inj.mp hrest)
  obtain ⟨⟨abits⟩, aspace, aname⟩ := a
  obtain ⟨⟨bbits⟩, bspace, bname⟩ := b
  obtain rfl : abits = bbits := BitVec.eq_of_toNat_eq hconnection
  obtain rfl : aspace = bspace := spaceRank_injective hspace
  obtain rfl : aname = bname := Text.bytes_injective hname
  rfl

theorem before_iff_rank_lt (a b : StreamKey) : a.before b = true ↔ a.rank < b.rank := by
  have hconnection : a.connectionId = b.connectionId ↔
      a.connectionId.toNat = b.connectionId.toNat := by
    obtain ⟨⟨abits⟩, _, _⟩ := a
    obtain ⟨⟨bbits⟩, _, _⟩ := b
    simp [Uuid.toNat, BitVec.toNat_inj]
  simp only [before, Bool.or_eq_true, Bool.and_eq_true, decide_eq_true_eq, spaceBefore_iff,
    Text.lt_iff_bytes_lt, rank, Prod.Lex.toLex_lt_toLex, spaceRank_injective.eq_iff, hconnection]
  rfl

theorem notAfter_iff_rank_le (a b : StreamKey) : a.notAfter b = true ↔ a.rank ≤ b.rank := by
  rw [notAfter, Bool.not_eq_true', ← not_lt, ← before_iff_rank_lt, Bool.not_eq_true]

end StreamKey

/-! ## The list of a store -/

namespace StatusStore

variable {s t : StatusStore} {l : List (StreamKey × TrackedStatus)}

/-- A list shows a store: its keys ascend, and it has the statuses of the store and no others. -/
structure Shows (l : List (StreamKey × TrackedStatus)) (s : StatusStore) : Prop where
  ascending : l.Pairwise fun a b => a.1.rank < b.1.rank
  entries : ∀ k v, (k, v) ∈ l ↔ s.get? k = some v

theorem mem_statuses_iff (s : StatusStore) (k : StreamKey) (v : TrackedStatus) :
    (k, v) ∈ s.statuses.toList ↔ s.get? k = some v :=
  s.statuses.mem_toList_iff k v

theorem Shows.nodup (h : Shows l s) : l.Nodup := by
  refine h.ascending.imp fun hlt heq => ?_
  rw [heq] at hlt
  exact lt_irrefl _ hlt

/-- Two lists in order with the same entries are the same. -/
theorem Shows.eq {l' : List (StreamKey × TrackedStatus)} (h : Shows l s) (h' : Shows l' s) :
    l = l' := by
  have hperm : l.Perm l' := by
    rw [List.perm_ext_iff_of_nodup h.nodup h'.nodup]
    rintro ⟨k, v⟩
    rw [h.entries, h'.entries]
  refine hperm.eq_of_pairwise (fun a b _ _ hab hba => ?_) h.ascending h'.ascending
  exact absurd (lt_trans hab hba) (lt_irrefl _)

/-- In whatever order the table is read, its entries in order show the store. -/
theorem shows_mergeSort (h : l.Perm s.statuses.toList) :
    Shows (l.mergeSort fun a b => a.1.notAfter b.1) s := by
  have hsorted : (l.mergeSort fun a b => a.1.notAfter b.1).Pairwise
      fun a b => a.1.notAfter b.1 = true := by
    refine List.pairwise_mergeSort (fun a b c hab hbc => ?_) (fun a b => ?_) l
    · rw [StreamKey.notAfter_iff_rank_le] at hab hbc ⊢
      exact le_trans hab hbc
    · rw [Bool.or_eq_true, StreamKey.notAfter_iff_rank_le, StreamKey.notAfter_iff_rank_le]
      exact le_total _ _
  have hperm : (l.mergeSort fun a b => a.1.notAfter b.1).Perm s.statuses.toList :=
    (List.mergeSort_perm _ _).trans h
  -- no key is in the table twice
  have hnodup : (l.mergeSort fun a b => a.1.notAfter b.1).Pairwise fun a b => a.1 ≠ b.1 :=
    List.pairwise_map.mp ((hperm.map Prod.fst).nodup_iff.mpr s.statuses.nodup)
  refine ⟨(hsorted.and hnodup).imp fun {a b} h => ?_, fun k v => ?_⟩
  · exact lt_of_le_of_ne ((StreamKey.notAfter_iff_rank_le _ _).mp h.1)
      fun heq => h.2 (StreamKey.rank_injective heq)
  · rw [hperm.mem_iff, mem_statuses_iff]

theorem shows_snapshot (s : StatusStore) : Shows s.snapshot s := shows_mergeSort (.refl _)

theorem Shows.congr (h : ∀ k, s.get? k = t.get? k) (hl : Shows l s) : Shows l t :=
  ⟨hl.ascending, fun k v => h k ▸ hl.entries k v⟩

/-- The snapshot is the one list that shows the store, and as long as the store. It comes of any
order in which the table is read, and two stores have the same snapshot exactly if they have the
same statuses. -/
theorem snapshot_canonical (s : StatusStore) :
    (∀ l, Shows l s ↔ l = s.snapshot) ∧ s.snapshot.length = s.size ∧
      (∀ l : List (StreamKey × TrackedStatus), l.Perm s.statuses.toList →
        l.mergeSort (fun a b => a.1.notAfter b.1) = s.snapshot) ∧
      ∀ t : StatusStore, s.snapshot = t.snapshot ↔ ∀ k, s.get? k = t.get? k := by
  refine ⟨fun l => ⟨fun h => h.eq s.shows_snapshot, ?_⟩, ?_, fun l h => ?_, fun t => ⟨?_, ?_⟩⟩
  · rintro rfl
    exact s.shows_snapshot
  · exact (List.mergeSort_perm _ _).length_eq
  · exact (shows_mergeSort h).eq s.shows_snapshot
  · intro h k
    refine Option.ext fun v => ?_
    rw [← s.shows_snapshot.entries, h, t.shows_snapshot.entries]
  · intro h
    exact (s.shows_snapshot.congr h).eq t.shows_snapshot

/-- A stream without a namespace and one whose namespace is empty, in either order. -/
theorem snapshot_canonical_twoOrders :
    let a : StreamKey := ⟨.ofNat 1, none, "users"⟩
    let b : StreamKey := ⟨.ofNat 1, some "", "user"⟩
    let s := (StatusStore.empty.update b .running).update a .record
    let t := (StatusStore.empty.update a .record).update b .running
    let inOrder := [(a, s.status a), (b, s.status b)]
    s.statuses.toList = inOrder.reverse ∧ inOrder.Perm s.statuses.toList ∧
      inOrder.mergeSort (fun a b => a.1.notAfter b.1) = s.snapshot ∧
      (∀ k, s.get? k = t.get? k) ∧ s.snapshot = t.snapshot ∧
      Shows inOrder s ∧ inOrder = s.snapshot := by
  intro a b s t inOrder
  obtain ⟨hshows, -, hread, hsame⟩ := snapshot_canonical s
  have hne : a ≠ b := by decide
  have hreverse : s.statuses.toList = inOrder.reverse := by decide
  have hperm : inOrder.Perm s.statuses.toList := hreverse ▸ inOrder.reverse_perm.symm
  have hget : ∀ k, s.get? k = t.get? k := by
    intro k
    by_cases ha : k = a <;> by_cases hb : k = b <;>
      simp_all [s, t, get?_update, status]
  have hinOrder : Shows inOrder s := by
    refine ⟨?_, fun k v => ?_⟩
    · have hbefore : a.rank < b.rank := (StreamKey.before_iff_rank_lt a b).mp (by decide)
      simpa [inOrder] using hbefore
    · rw [← mem_statuses_iff, hreverse, List.mem_reverse]
  exact ⟨hreverse, hperm, hread inOrder hperm, hget, (hsame t).mpr hget, hinOrder,
    (hshows inOrder).mp hinOrder⟩

end StatusStore

end SyncLedger
