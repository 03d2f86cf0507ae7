import BbrChrome.Library.FrontierMap
import BbrChrome.Quic.QueueInvariant
import Mathlib.Data.Set.Card

/-!
# The indexed queue is a map with a frontier

The deque with its holes, its counter and its first number represents a map from packet numbers
to entries whose frontier is the end of the deque. Every operation of the queue is the
operation of the map.
-/

namespace BbrChrome

namespace PacketNumberIndexedQueue

variable {α : Type} {q : PacketNumberIndexedQueue α} {es : List (Option α)} {first n : Nat} {v : α}

/-! ## Slots -/

/-- The entry `n` of a deque that starts at `first`. -/
def slot (first : Nat) (es : List (Option α)) (n : Nat) : Option α :=
  if n < first then none else es[n - first]?.join

theorem slot_nil : slot first ([] : List (Option α)) n = none := by
  simp [slot]

theorem slot_first (e : α) : slot first (some e :: es) first = some e := by
  simp [slot]

theorem slot_cons_of_ne (e : Option α) (hne : n ≠ first) :
    slot first (e :: es) n = slot (first + 1) es n := by
  unfold slot
  by_cases hlt : n < first
  · rw [if_pos hlt, if_pos (by omega)]
  · rw [if_neg hlt, if_neg (by omega), show n - first = (n - (first + 1)) + 1 by omega,
      List.getElem?_cons_succ]

theorem slot_none_cons : slot first (none :: es) n = slot (first + 1) es n := by
  by_cases hn : n = first
  · subst hn
    simp [slot]
  · exact slot_cons_of_ne none hn

theorem slot_of_some (h : slot first es n = some v) :
    first ≤ n ∧ n < first + es.length ∧ es[n - first]? = some (some v) := by
  unfold slot at h
  split at h
  · cases h
  · have hget := Option.join_eq_some_iff.mp h
    obtain ⟨hlt, _⟩ := List.getElem?_eq_some_iff.mp hget
    exact ⟨by omega, by omega, hget⟩

theorem slot_of_absent (h : presentCount es = 0) : slot first es n = none := by
  by_contra hsome
  obtain ⟨v, hv⟩ := Option.ne_none_iff_exists'.mp hsome
  have hmem := List.mem_of_getElem? (slot_of_some hv).2.2
  have hpos : 0 < presentCount es := List.countP_pos_iff.mpr ⟨_, hmem, rfl⟩
  omega

/-! ## The represented map -/

def toFrontierMap (q : PacketNumberIndexedQueue α) : FrontierMap Nat α where
  entry n := q.getEntry (.number n)
  frontier :=
    match q.lastPacket with
    | .number last => some last
    | .uninitialized => none

theorem getEntry_of_number (hfirst : q.firstPacket = .number first)
    (hpresent : q.numberOfPresentEntries = presentCount q.entries) :
    q.getEntry (.number n) = slot first q.entries n := by
  simp only [getEntry, hfirst]
  by_cases hempty : q.isEmpty = true
  · have hzero : presentCount q.entries = 0 := by
      rw [← hpresent]
      simpa [isEmpty] using hempty
    rw [slot_of_absent hzero, hempty]
    rfl
  · have hfalse : q.isEmpty = false := by simpa using hempty
    rw [hfalse]
    simp [slot]

theorem WellFormed.getEntry_of_nil (h : q.WellFormed) (hnil : q.entries = []) :
    q.getEntry (.number n) = none := by
  have hempty := h.isEmpty_iff.mpr hnil
  unfold getEntry
  cases q.firstPacket with
  | uninitialized => rfl
  | number first => simp [hempty]

theorem WellFormed.lastPacket_eq (h : q.WellFormed) (hfirst : q.firstPacket = .number first)
    (hne : q.entries ≠ []) : q.lastPacket = .number (first + q.entries.length - 1) := by
  have hempty : q.isEmpty = false := by
    rw [Bool.eq_false_iff, Ne, h.isEmpty_iff]
    exact hne
  simp [lastPacket, hempty, hfirst]

/-- A queue is empty, or its deque starts with a present entry that has the first number. -/
theorem WellFormed.cases (h : q.WellFormed) :
    q.entries = [] ∨ ∃ first e es, q.entries = some e :: es ∧ q.firstPacket = .number first := by
  cases hes : q.entries with
  | nil => exact .inl rfl
  | cons a es =>
      obtain ⟨hsome, first, hfirst⟩ := h.front a es hes
      obtain ⟨e, rfl⟩ := Option.isSome_iff_exists.mp hsome
      exact .inr ⟨first, e, es, rfl, hfirst⟩

theorem WellFormed.toFrontierMap_of_nil (h : q.WellFormed) (hnil : q.entries = []) :
    q.toFrontierMap = FrontierMap.empty := by
  have hlast : q.lastPacket = .uninitialized := by
    simp [lastPacket, h.isEmpty_iff.mpr hnil]
  unfold toFrontierMap FrontierMap.empty
  rw [hlast]
  simp only [FrontierMap.mk.injEq, and_true]
  exact funext fun n => h.getEntry_of_nil hnil

theorem WellFormed.toFrontierMap_of_ne (h : q.WellFormed) (hfirst : q.firstPacket = .number first)
    (hne : q.entries ≠ []) :
    q.toFrontierMap = ⟨slot first q.entries, some (first + q.entries.length - 1)⟩ := by
  unfold toFrontierMap
  rw [h.lastPacket_eq hfirst hne]
  simp only [FrontierMap.mk.injEq, and_true]
  exact funext fun n => getEntry_of_number hfirst h.present

theorem toFrontierMap_cleanup (es : List (Option α)) (first : Nat) :
    (cleanup es (presentCount es) (.number first)).toFrontierMap =
      FrontierMap.settle ⟨slot first es, some (first + es.length - 1)⟩ := by
  induction es generalizing first with
  | nil =>
      rw [FrontierMap.settle_of_none fun n => slot_nil]
      unfold toFrontierMap cleanup
      simp only [FrontierMap.mk.injEq]
      refine ⟨funext fun n => slot_nil.symm, rfl⟩
  | cons e es ih =>
      cases e with
      | none =>
          have hcount : presentCount (none :: es) = presentCount es := by
            simp [presentCount]
          rw [hcount]
          show (cleanup es (presentCount es) (.number (first + 1))).toFrontierMap = _
          rw [ih, List.length_cons, show first + (es.length + 1) = first + 1 + es.length by omega]
          congr 2
          funext n
          exact slot_none_cons.symm
      | some e =>
          rw [FrontierMap.settle_of_some (slot_first e)]
          unfold toFrontierMap cleanup
          have hpos : presentCount (some e :: es) ≠ 0 := by
            simp [presentCount]
          simp only [FrontierMap.mk.injEq]
          refine ⟨funext fun n => getEntry_of_number rfl rfl, ?_⟩
          simp [lastPacket, isEmpty, hpos]

/-! ## Insertion -/

theorem slot_append_holes (hlast : first + es.length ≤ n) (m : Nat) :
    slot first (es ++ List.replicate (n - first - es.length) none ++ [some v]) m =
      Function.update (slot first es) n (some v) m := by
  by_cases hm : m = n
  · subst hm
    rw [Function.update_self, slot, if_neg (by omega), List.getElem?_append_right (by simp; omega)]
    rw [List.length_append, List.length_replicate,
      show m - first - (es.length + (m - first - es.length)) = 0 by omega]
    rfl
  · rw [Function.update_of_ne hm]
    unfold slot
    by_cases hlt : m < first
    · rw [if_pos hlt, if_pos hlt]
    · rw [if_neg hlt, if_neg hlt, List.append_assoc]
      by_cases hin : m - first < es.length
      · rw [List.getElem?_append_left hin]
      · have hout : es[m - first]? = none := List.getElem?_eq_none (by omega)
        rw [List.getElem?_append_right (by omega), hout]
        by_cases hhole : m - first - es.length < n - first - es.length
        · rw [List.getElem?_append_left (by rw [List.length_replicate]; exact hhole),
            List.getElem?_replicate, if_pos hhole]
          rfl
        · rw [List.getElem?_eq_none]
          simp only [List.length_append, List.length_replicate, List.length_singleton]
          omega

theorem WellFormed.emplace_refines_of_nil (h : q.WellFormed) (hnil : q.entries = []) (n : Nat)
    (v : α) :
    q.toFrontierMap.put n v =
      ((q.emplace (.number n) v).1.toFrontierMap, (q.emplace (.number n) v).2) := by
  have hwell : (q.emplace (.number n) v).1.WellFormed := h.emplace
  have hempty := h.isEmpty_iff.mpr hnil
  have haccepts : (FrontierMap.empty : FrontierMap Nat α).Accepts n := by
    intro f hf
    cases hf
  have hnext : q.emplace (.number n) v = (⟨[some v], 1, .number n⟩, true) := by
    simp [PacketNumberIndexedQueue.emplace, hempty, hnil]
  rw [h.toFrontierMap_of_nil hnil, FrontierMap.put, if_pos haccepts]
  rw [hnext] at hwell ⊢
  have hfirst : ({ entries := [some v], numberOfPresentEntries := 1, firstPacket := .number n } :
      PacketNumberIndexedQueue α).firstPacket = .number n := rfl
  rw [hwell.toFrontierMap_of_ne hfirst (by simp)]
  simp only [Prod.mk.injEq, FrontierMap.mk.injEq, and_true]
  refine ⟨funext fun m => ?_, rfl⟩
  have hslot : slot n ([] ++ List.replicate (n - n - 0) none ++ [some v]) m =
      Function.update (slot n []) n (some v) m := slot_append_holes (Nat.le_refl n) m
  simp only [Nat.sub_self, List.replicate_zero, List.nil_append] at hslot
  rw [hslot]
  congr 1
  exact funext fun _ => slot_nil.symm

theorem WellFormed.emplace_refines (h : q.WellFormed) (n : Nat) (v : α) :
    q.toFrontierMap.put n v =
      ((q.emplace (.number n) v).1.toFrontierMap, (q.emplace (.number n) v).2) := by
  rcases h.cases with hnil | ⟨first, e, es, hes, hfirst⟩
  · exact h.emplace_refines_of_nil hnil n v
  · have hwell : (q.emplace (.number n) v).1.WellFormed := h.emplace
    have hne : q.entries ≠ [] := by simp [hes]
    have hempty : q.isEmpty = false := by
      rw [Bool.eq_false_iff, Ne, h.isEmpty_iff]
      exact hne
    rw [h.toFrontierMap_of_ne hfirst hne]
    by_cases hle : n ≤ first + q.entries.length - 1
    · have hnext : q.emplace (.number n) v = (q, false) := by
        simp [PacketNumberIndexedQueue.emplace, hempty, hfirst, hle]
      have hrejects : ¬ (FrontierMap.mk (slot first q.entries)
          (some (first + q.entries.length - 1))).Accepts n := by
        intro haccepts
        have hlt := haccepts _ rfl
        omega
      rw [FrontierMap.put, if_neg hrejects, hnext, h.toFrontierMap_of_ne hfirst hne]
    · have hnext : q.emplace (.number n) v =
          ({ q with
              entries := q.entries ++ List.replicate (n - first - q.entries.length) none ++ [some v]
              numberOfPresentEntries := q.numberOfPresentEntries + 1 }, true) := by
        simp [PacketNumberIndexedQueue.emplace, hempty, hfirst, hle]
      have haccepts : (FrontierMap.mk (slot first q.entries)
          (some (first + q.entries.length - 1))).Accepts n := by
        intro f hf
        cases hf
        omega
      rw [FrontierMap.put, if_pos haccepts]
      rw [hnext] at hwell ⊢
      rw [hwell.toFrontierMap_of_ne hfirst (by simp)]
      simp only [Prod.mk.injEq, FrontierMap.mk.injEq, Option.some.injEq, and_true]
      refine ⟨funext fun m => (slot_append_holes (by omega) m).symm, ?_⟩
      simp only [List.length_append, List.length_replicate, List.length_singleton]
      omega

/-! ## Removal -/

theorem slot_set_none (hfirst : first ≤ n) (hlt : n < first + es.length) (m : Nat) :
    slot first (es.set (n - first) none) m = Function.update (slot first es) n none m := by
  by_cases hm : m = n
  · subst hm
    rw [Function.update_self, slot, if_neg (by omega), List.getElem?_set_self (by omega)]
    rfl
  · rw [Function.update_of_ne hm]
    unfold slot
    by_cases hbelow : m < first
    · rw [if_pos hbelow, if_pos hbelow]
    · rw [if_neg hbelow, if_neg hbelow, List.getElem?_set_ne (by omega)]

theorem presentCount_set_none {i : Nat} (h : es[i]? = some (some v)) :
    presentCount (es.set i none) = presentCount es - 1 := by
  induction es generalizing i with
  | nil => cases h
  | cons e es ih =>
      cases i with
      | zero =>
          cases h
          simp [presentCount]
      | succ i =>
          have hrest := ih h
          have hpos : 0 < es.countP (·.isSome) :=
            List.countP_pos_iff.mpr ⟨_, List.mem_of_getElem? h, rfl⟩
          unfold presentCount at hrest ⊢
          rw [List.set_cons_succ, List.countP_cons, List.countP_cons, hrest]
          omega

theorem WellFormed.remove_of_some (h : q.WellFormed) (hfirst : q.firstPacket = .number first)
    (hv : slot first q.entries n = some v) :
    q.remove (.number n) =
      (if n = first then
          cleanup (q.entries.set (n - first) none) (presentCount (q.entries.set (n - first) none))
            (.number first)
        else
          { q with
            entries := q.entries.set (n - first) none
            numberOfPresentEntries := presentCount (q.entries.set (n - first) none) }, true) := by
  have hcount := presentCount_set_none (slot_of_some hv).2.2
  have hentry : (q.getEntry (.number n)).isNone = false := by
    rw [getEntry_of_number hfirst h.present, hv]
    rfl
  unfold PacketNumberIndexedQueue.remove
  rw [hentry]
  simp only [Bool.false_eq_true, if_false, hfirst, QuicPacketNumber.number.injEq,
    QuicPacketNumber.sub_number, QuicPacketNumber.toUint64, h.present, hcount]
  split <;> rfl

theorem remove_of_none {packetNumber : QuicPacketNumber} (h : q.getEntry packetNumber = none) :
    q.remove packetNumber = (q, false) := by
  simp [PacketNumberIndexedQueue.remove, h]

theorem WellFormed.remove (h : q.WellFormed) (packetNumber : QuicPacketNumber) :
    (q.remove packetNumber).1.WellFormed := by
  cases packetNumber with
  | uninitialized => exact h
  | number n =>
      cases hentry : q.getEntry (.number n) with
      | none =>
          rw [remove_of_none hentry]
          exact h
      | some v =>
          rcases h.cases with hnil | ⟨first, e, es, hes, hfirst⟩
          · rw [h.getEntry_of_nil hnil] at hentry
            cases hentry
          · rw [getEntry_of_number hfirst h.present] at hentry
            rw [h.remove_of_some hfirst hentry]
            dsimp only
            split
            · exact cleanup_wellFormed rfl
            · rename_i hne
              obtain ⟨hle, _, _⟩ := slot_of_some hentry
              refine ⟨rfl, fun a rest hrest => ?_⟩
              rw [hes, show n - first = (n - first - 1) + 1 by omega, List.set_cons_succ] at hrest
              rw [← (List.cons.inj hrest).1]
              exact ⟨rfl, first, hfirst⟩

theorem WellFormed.remove_refines (h : q.WellFormed) (n : Nat) :
    q.toFrontierMap.remove n =
      ((q.remove (.number n)).1.toFrontierMap, (q.remove (.number n)).2) := by
  have hwell := h.remove (.number n)
  unfold FrontierMap.remove
  cases hentry : q.getEntry (.number n) with
  | none =>
      have hnone : q.toFrontierMap.entry n = none := hentry
      rw [remove_of_none hentry, hnone]
      rfl
  | some v =>
      have hsome : q.toFrontierMap.entry n = some v := hentry
      rw [hsome]
      rcases h.cases with hnil | ⟨first, e, es, hes, hfirst⟩
      · rw [h.getEntry_of_nil hnil] at hentry
        cases hentry
      · have hne : q.entries ≠ [] := by simp [hes]
        rw [getEntry_of_number hfirst h.present] at hentry
        obtain ⟨hle, hlt, _⟩ := slot_of_some hentry
        have hslots : Function.update (slot first q.entries) n none =
            slot first (q.entries.set (n - first) none) :=
          funext fun m => (slot_set_none hle hlt m).symm
        rw [h.remove_of_some hfirst hentry] at hwell ⊢
        rw [h.toFrontierMap_of_ne hfirst hne]
        simp only [Option.isSome_some, if_true, Prod.mk.injEq, and_true, hslots]
        dsimp only at hwell
        split
        · rw [toFrontierMap_cleanup, List.length_set]
        · rename_i hmiddle
          rw [if_neg hmiddle] at hwell
          -- The front stays, so the map is not empty.
          have hfront : slot first (q.entries.set (n - first) none) first = some e := by
            rw [slot_set_none hle hlt, Function.update_of_ne (Ne.symm hmiddle), hes, slot_first]
          rw [FrontierMap.settle_of_some hfront,
            hwell.toFrontierMap_of_ne hfirst (by simp [hes]), List.length_set]

theorem popUpTo_slots (n : Nat) (es : List (Option α)) (first : Nat) :
    ∃ rest start, popUpTo n es (presentCount es) first =
        ⟨rest, presentCount rest, .number start⟩ ∧
      start + rest.length = first + es.length ∧
      ∀ m, slot start rest m = if m < n then none else slot first es m := by
  induction es generalizing first with
  | nil => exact ⟨[], first, rfl, rfl, fun m => by simp [slot_nil]⟩
  | cons e es ih =>
      by_cases hlt : first < n
      · obtain ⟨rest, start, hpop, hend, hslots⟩ := ih (first + 1)
        have hcount : (if e.isSome then presentCount (e :: es) - 1 else presentCount (e :: es)) =
            presentCount es := by
          cases e <;> simp [presentCount]
        refine ⟨rest, start, ?_, ?_, fun m => ?_⟩
        · rw [popUpTo, if_pos hlt, hcount]
          exact hpop
        · rw [List.length_cons]
          omega
        · rw [hslots m]
          by_cases hm : m < n
          · rw [if_pos hm, if_pos hm]
          · rw [if_neg hm, if_neg hm, slot_cons_of_ne e (by omega)]
      · refine ⟨e :: es, first, ?_, rfl, fun m => ?_⟩
        · rw [popUpTo, if_neg hlt]
        · by_cases hm : m < n
          · rw [if_pos hm, slot, if_pos (by omega)]
          · rw [if_neg hm]

theorem WellFormed.removeUpTo_refines (h : q.WellFormed) (n : Nat) :
    q.toFrontierMap.removeUpTo n = (q.removeUpTo n).toFrontierMap := by
  unfold FrontierMap.removeUpTo
  rcases h.cases with hnil | ⟨first, e, es, hes, hfirst⟩
  · have hrest : (q.removeUpTo n).entries = [] := by
      rw [List.eq_nil_iff_forall_not_mem]
      intro x hmem
      unfold PacketNumberIndexedQueue.removeUpTo at hmem
      have hpopped := mem_cleanup hmem
      split at hpopped
      · simp [hnil] at hpopped
      · have := mem_popUpTo hpopped
        simp [hnil] at this
    rw [h.toFrontierMap_of_nil hnil, (h.removeUpTo n).toFrontierMap_of_nil hrest,
      FrontierMap.settle_of_none]
    · simp [FrontierMap.empty]
    · simp [FrontierMap.empty]
  · obtain ⟨rest, start, hpop, hend, hslots⟩ := popUpTo_slots n q.entries first
    have hne : q.entries ≠ [] := by simp [hes]
    rw [h.toFrontierMap_of_ne hfirst hne]
    unfold PacketNumberIndexedQueue.removeUpTo
    simp only [hfirst, h.present, hpop]
    rw [toFrontierMap_cleanup, hend]
    congr 2
    exact funext fun m => (hslots m).symm

/-! ## The counter -/

/-- The counter of a deque counts the numbers that have an entry. -/
theorem presentCount_eq_ncard (es : List (Option α)) (first : Nat) :
    {n | ∃ v, slot first es n = some v}.Finite ∧
      presentCount es = {n | ∃ v, slot first es n = some v}.ncard := by
  induction es generalizing first with
  | nil =>
      have hnone : {n | ∃ v : α, slot first [] n = some v} = ∅ := by
        simp [slot_nil]
      rw [hnone, Set.ncard_empty]
      exact ⟨Set.finite_empty, rfl⟩
  | cons e es ih =>
      obtain ⟨hfinite, hcount⟩ := ih (first + 1)
      cases e with
      | none =>
          simp only [slot_none_cons]
          refine ⟨hfinite, ?_⟩
          rw [← hcount]
          simp [presentCount]
      | some e =>
          have hinsert : {n | ∃ v, slot first (some e :: es) n = some v} =
              insert first {n | ∃ v, slot (first + 1) es n = some v} := by
            ext n
            by_cases hn : n = first
            · subst hn
              simp [slot_first]
            · simp [slot_cons_of_ne _ hn, hn]
          have hout : first ∉ {n | ∃ v, slot (first + 1) es n = some v} := by
            rintro ⟨v, hv⟩
            have := (slot_of_some hv).1
            omega
          rw [hinsert, Set.ncard_insert_of_notMem hout hfinite, ← hcount]
          refine ⟨hfinite.insert first, ?_⟩
          simp [presentCount]

theorem WellFormed.count_eq (h : q.WellFormed) :
    {n | ∃ v, q.getEntry (.number n) = some v}.Finite ∧
      q.numberOfPresentEntries = {n | ∃ v, q.getEntry (.number n) = some v}.ncard := by
  rw [h.present]
  rcases h.cases with hnil | ⟨first, e, es, hes, hfirst⟩
  · simp [hnil, h.getEntry_of_nil hnil, presentCount]
  · simp only [getEntry_of_number hfirst h.present]
    exact presentCount_eq_ncard q.entries first

/-! ## Runs -/

inductive QueueCall (α : Type)
  | emplace (packetNumber : QuicPacketNumber) (entry : α)
  | remove (packetNumber : QuicPacketNumber)
  | removeUpTo (packetNumber : QuicPacketNumber)
  | getEntry (packetNumber : QuicPacketNumber)
deriving DecidableEq, Repr

/-- The next queue and what the call returns: whether it succeeded or found an entry. The
sentinel is larger than every number, also as the bound of `RemoveUpTo`. -/
def call (q : PacketNumberIndexedQueue α) : QueueCall α → PacketNumberIndexedQueue α × Bool
  | .emplace packetNumber entry => q.emplace packetNumber entry
  | .remove packetNumber => q.remove packetNumber
  | .removeUpTo packetNumber => (q.removeUpTo packetNumber.toUint64, true)
  | .getEntry packetNumber => (q, (q.getEntry packetNumber).isSome)

def run (q : PacketNumberIndexedQueue α) : List (QueueCall α) → PacketNumberIndexedQueue α
  | [] => q
  | c :: calls => (q.call c).1.run calls

def log (q : PacketNumberIndexedQueue α) : List (QueueCall α) → List (QueueCall α × Bool)
  | [] => []
  | c :: calls => (c, (q.call c).2) :: (q.call c).1.log calls

/-- The call of the map that a call of the queue makes. The sentinel is no key. -/
def mapCall? : QueueCall α → Option (FrontierMap.Call Nat α)
  | .emplace (.number n) entry => some (.put n entry)
  | .remove (.number n) => some (.remove n)
  | .removeUpTo packetNumber => some (.removeUpTo packetNumber.toUint64)
  | _ => none

/-- The last call that put in or removed `n` was a successful `Emplace(n, v)`. -/
def LastEmplaced (log : List (QueueCall α × Bool)) (n : Nat) (v : α) : Prop :=
  FrontierMap.LastPut (log.filterMap fun c => (mapCall? c.1).map (·, c.2)) n v

/-- A call keeps the invariant and is a call of the map, or changes nothing. -/
theorem WellFormed.call_refines (h : q.WellFormed) (c : QueueCall α) :
    (q.call c).1.WellFormed ∧
      match mapCall? c with
      | some a => q.toFrontierMap.call a = ((q.call c).1.toFrontierMap, (q.call c).2)
      | none => (q.call c).1 = q := by
  cases c with
  | emplace packetNumber v =>
      refine ⟨h.emplace, ?_⟩
      cases packetNumber with
      | uninitialized => rfl
      | number n => exact h.emplace_refines n v
  | remove packetNumber =>
      refine ⟨h.remove packetNumber, ?_⟩
      cases packetNumber with
      | uninitialized => rfl
      | number n => exact h.remove_refines n
  | removeUpTo packetNumber =>
      exact ⟨h.removeUpTo _, congrArg (·, true) (h.removeUpTo_refines _)⟩
  | getEntry packetNumber => exact ⟨h, rfl⟩

theorem WellFormed.run_refines (h : q.WellFormed) (calls : List (QueueCall α)) :
    (q.run calls).WellFormed ∧
      (q.run calls).toFrontierMap = q.toFrontierMap.run (calls.filterMap mapCall?) ∧
      (q.log calls).filterMap (fun c => (mapCall? c.1).map (·, c.2)) =
        q.toFrontierMap.log (calls.filterMap mapCall?) := by
  induction calls generalizing q with
  | nil => exact ⟨h, rfl, rfl⟩
  | cons c calls ih =>
      obtain ⟨hwell, hcall⟩ := h.call_refines c
      obtain ⟨hrun, hmap, hlog⟩ := ih hwell
      refine ⟨hrun, ?_, ?_⟩
      · show ((q.call c).1.run calls).toFrontierMap = _
        rw [hmap]
        cases hc : mapCall? c with
        | none =>
            simp only [hc] at hcall
            rw [List.filterMap_cons_none hc, hcall]
        | some a =>
            simp only [hc] at hcall
            rw [List.filterMap_cons_some hc, FrontierMap.run, hcall]
      · show List.filterMap _ ((c, (q.call c).2) :: (q.call c).1.log calls) = _
        cases hc : mapCall? c with
        | none =>
            simp only [hc] at hcall
            rw [List.filterMap_cons_none (by simp [hc]), List.filterMap_cons_none hc, hlog, hcall]
        | some a =>
            simp only [hc] at hcall
            rw [List.filterMap_cons_some (by simp [hc]; rfl), List.filterMap_cons_some hc,
              FrontierMap.log, hcall, hlog]

/-- What the queue owes to the log of its calls. -/
structure TracksLog (q : PacketNumberIndexedQueue α) (log : List (QueueCall α × Bool)) : Prop where
  entry : ∀ n v, q.getEntry (.number n) = some v ↔ LastEmplaced log n v
  sentinel : q.getEntry .uninitialized = none
  finite : {n | ∃ v, LastEmplaced log n v}.Finite
  count : q.numberOfPresentEntries = {n | ∃ v, LastEmplaced log n v}.ncard
  accepts : ∀ packetNumber v, (q.emplace packetNumber v).2 = true ↔
    ∃ n, packetNumber = .number n ∧
      (q.isEmpty = true ∨ ∃ last, q.lastPacket = .number last ∧ last < n)
  failedEmplace : ∀ packetNumber v, (q.emplace packetNumber v).2 = false →
    (q.emplace packetNumber v).1 = q
  failedRemove : ∀ packetNumber, (q.remove packetNumber).2 = false →
    (q.remove packetNumber).1 = q
  empty : q.entries = [] ↔ ∀ n v, ¬ LastEmplaced log n v
  front : q.entries ≠ [] → ∃ first v rest, q.entries = some v :: rest ∧
    q.firstPacket = .number first ∧ q.getEntry (.number first) = some v

theorem WellFormed.emplace_accepts (h : q.WellFormed) (packetNumber : QuicPacketNumber) (v : α) :
    (q.emplace packetNumber v).2 = true ↔
      ∃ n, packetNumber = .number n ∧
        (q.isEmpty = true ∨ ∃ last, q.lastPacket = .number last ∧ last < n) := by
  cases packetNumber with
  | uninitialized => simp [PacketNumberIndexedQueue.emplace]
  | number n =>
      simp only [QuicPacketNumber.number.injEq, exists_eq_left']
      rcases h.cases with hnil | ⟨first, e, es, hes, hfirst⟩
      · have hempty := h.isEmpty_iff.mpr hnil
        simp [PacketNumberIndexedQueue.emplace, hempty]
      · have hne : q.entries ≠ [] := by simp [hes]
        have hempty : q.isEmpty = false := by
          rw [Bool.eq_false_iff, Ne, h.isEmpty_iff]
          exact hne
        rw [h.lastPacket_eq hfirst hne]
        by_cases hle : n ≤ first + q.entries.length - 1
        · simp [PacketNumberIndexedQueue.emplace, hempty, hfirst, hle]
        · simp [PacketNumberIndexedQueue.emplace, hempty, hfirst, hle]
          omega

theorem emplace_of_failed {packetNumber : QuicPacketNumber}
    (h : (q.emplace packetNumber v).2 = false) : (q.emplace packetNumber v).1 = q := by
  unfold PacketNumberIndexedQueue.emplace at h ⊢
  split at h
  · rfl
  · split at h
    · cases h
    · rename_i hempty
      rw [if_neg hempty]
      split at h
      · simp_all
      · rename_i hfirst
        simp only [hfirst]
        split at h
        · rename_i hle
          rw [if_pos hle]
        · cases h

theorem remove_of_failed {packetNumber : QuicPacketNumber}
    (h : (q.remove packetNumber).2 = false) : (q.remove packetNumber).1 = q := by
  unfold PacketNumberIndexedQueue.remove at h ⊢
  split at h
  · rename_i hnone
    rw [if_pos hnone]
  · dsimp only at h
    split at h
    · cases h
    · cases h

/-- After any sequence of calls the queue is the map with an append frontier that its log
describes. -/
theorem run_tracksLog (calls : List (QueueCall α)) :
    TracksLog (({} : PacketNumberIndexedQueue α).run calls)
      (({} : PacketNumberIndexedQueue α).log calls) := by
  have hempty : WellFormed ({} : PacketNumberIndexedQueue α) := wellFormed_empty
  obtain ⟨hwell, hmap, hlog⟩ := hempty.run_refines calls
  have hstart : ({} : PacketNumberIndexedQueue α).toFrontierMap = FrontierMap.empty :=
    hempty.toFrontierMap_of_nil rfl
  have hentry : ∀ n v, (({} : PacketNumberIndexedQueue α).run calls).getEntry (.number n) = some v ↔
      LastEmplaced (({} : PacketNumberIndexedQueue α).log calls) n v := by
    intro n v
    unfold LastEmplaced
    rw [hlog, hstart, ← FrontierMap.run_entry_iff, ← hstart, ← hmap]
    rfl
  obtain ⟨hfinite, hcount⟩ := hwell.count_eq
  simp only [hentry] at hfinite hcount
  refine ⟨hentry, rfl, hfinite, hcount, hwell.emplace_accepts, fun _ _ => emplace_of_failed,
    fun _ => remove_of_failed, ?_, ?_⟩
  · rcases hwell.cases with hnil | ⟨first, e, es, hes, hfirst⟩
    · refine ⟨fun _ n v hlast => ?_, fun _ => hnil⟩
      rw [← hentry, hwell.getEntry_of_nil hnil] at hlast
      cases hlast
    · have hfront : LastEmplaced (({} : PacketNumberIndexedQueue α).log calls) first e := by
        rw [← hentry, getEntry_of_number hfirst hwell.present, hes, slot_first]
      exact ⟨fun hnil => by simp [hes] at hnil, fun hnone => absurd hfront (hnone first e)⟩
  · intro hne
    rcases hwell.cases with hnil | ⟨first, e, es, hes, hfirst⟩
    · exact absurd hnil hne
    · refine ⟨first, e, es, hes, hfirst, ?_⟩
      rw [getEntry_of_number hfirst hwell.present, hes, slot_first]

end PacketNumberIndexedQueue

end BbrChrome
