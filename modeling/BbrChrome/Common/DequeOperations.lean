import BbrChrome.Common.DequeLayout

/-!
# The operations of the circular deque on lists

Construction, destruction and relocation touch the cells they name and no others. Every
operation takes a deque that represents a list to one that represents the list after the same
operation, unless the allocator refuses.
-/

namespace BbrChrome

namespace QuicheCircularDeque

variable {α : Type} {traits : DequeTraits} {d : QuicheCircularDeque α} {l : List α}
  {data dest : List (Option α)} {v : α} {first index last count i k n : Nat}

/-! ## Cells -/

theorem destroyUnwrappedRange_length :
    (destroyUnwrappedRange data first count).length = data.length := by
  induction count generalizing data first with
  | zero => rfl
  | succ count ih => rw [destroyUnwrappedRange, ih, List.length_set]

theorem destroyUnwrappedRange_outside (h : k < first ∨ first + count ≤ k) :
    (destroyUnwrappedRange data first count)[k]? = data[k]? := by
  induction count generalizing data first with
  | zero => rfl
  | succ count ih => rw [destroyUnwrappedRange, ih (by omega), List.getElem?_set_ne (by omega)]

@[simp] theorem destroyRange_length : (destroyRange data first last).length = data.length := by
  unfold destroyRange
  split
  · exact destroyUnwrappedRange_length
  · rw [destroyUnwrappedRange_length, destroyUnwrappedRange_length]

theorem destroyRange_outside (hfirst : first ≤ data.length) (h : ¬ Ring.InArc first last k) :
    (destroyRange data first last)[k]? = data[k]? := by
  unfold Ring.InArc at h
  unfold destroyRange
  split at h
  · rw [if_pos (by assumption), destroyUnwrappedRange_outside (by omega)]
  · rw [if_neg (by assumption), destroyUnwrappedRange_outside (by omega)]
    by_cases hk : k < data.length
    · rw [destroyUnwrappedRange_outside (by omega)]
    · omega

theorem construct_of_lt (h : index < data.length) :
    construct data index v = .ok (data.set index (some v)) := if_pos h

theorem relocateUnwrappedRange_ok (data dest : List (Option α)) (first index count : Nat)
    (hlive : ∀ i, i < count → ∃ v, data[first + i]? = some (some v))
    (hroom : index + count ≤ dest.length) :
    ∃ dest', relocateUnwrappedRange data count first index dest = .ok dest' ∧
      dest'.length = dest.length ∧
      (∀ i, i < count → dest'[index + i]? = data[first + i]?) ∧
      ∀ k, k < index → dest'[k]? = dest[k]? := by
  induction count generalizing first index dest with
  | zero => exact ⟨dest, rfl, rfl, by omega, fun k _ => rfl⟩
  | succ count ih =>
      obtain ⟨v, hv⟩ := hlive 0 (by omega)
      rw [Nat.add_zero] at hv
      obtain ⟨dest', hok, hlen, hmoved, hbefore⟩ :=
        ih (dest.set index (some v)) (first + 1) (index + 1)
          (fun i hi => by
            obtain ⟨w, hw⟩ := hlive (i + 1) (by omega)
            exact ⟨w, by rw [← hw]; congr 1; omega⟩)
          (by rw [List.length_set]; omega)
      refine ⟨dest', ?_, by rw [hlen, List.length_set], ?_, ?_⟩
      · rw [relocateUnwrappedRange, hv]
        simp only [Option.join_some, construct_of_lt (show index < dest.length by omega)]
        exact hok
      · intro i hi
        cases i with
        | zero =>
            rw [Nat.add_zero, Nat.add_zero, hbefore index (by omega), hv,
              List.getElem?_set_self (by omega)]
        | succ i =>
            have := hmoved i (by omega)
            rw [show index + (i + 1) = index + 1 + i by omega, this]
            congr 1
            omega
      · intro k hk
        rw [hbefore k (by omega), List.getElem?_set_ne (by omega)]

theorem Represents.live (h : d.Represents l) (hi : i < l.length) :
    ∃ v, d.data[d.indexOf i]? = some (some v) :=
  ⟨l[i], h.holds i l[i] (List.getElem?_eq_getElem hi)⟩

/-- The new buffer holds the list in its first cells. -/
def Relocated (d : QuicheCircularDeque α) (l : List α) (dest dest' : List (Option α)) : Prop :=
  dest'.length = dest.length ∧ ∀ i, i < l.length → dest'[i]? = d.data[d.indexOf i]?

/-- A list that does not wrap is moved in one piece. -/
theorem Represents.relocateAll_unwrapped (h : d.Represents l) (dest : List (Option α))
    (hroom : l.length ≤ dest.length) (hunwrapped : d.beginIndex < d.endIndex) :
    ∃ dest', d.relocateAll dest = .ok dest' ∧ d.Relocated l dest dest' := by
  have hlen := h.room
  have hend := h.end_eq
  unfold Ring.place at hend
  have hcount : d.endIndex - d.beginIndex = l.length := by
    split at hend <;> omega
  have hplace : ∀ i, i < l.length → d.indexOf i = d.beginIndex + i := by
    intro i hi
    unfold indexOf Ring.place
    split at hend <;> split <;> omega
  obtain ⟨dest', hok, hlen', hmoved, _⟩ :=
    relocateUnwrappedRange_ok d.data dest d.beginIndex 0 l.length
      (fun i hi => by rw [← hplace i hi]; exact h.live hi) (by omega)
  unfold relocateAll
  rw [if_pos hunwrapped, hcount]
  refine ⟨dest', hok, hlen', fun i hi => ?_⟩
  rw [hplace i hi, ← hmoved i hi, Nat.zero_add]

/-- A list that wraps is moved in two pieces: up to the end of the buffer and from its first
cell on. -/
theorem Represents.relocateAll_wrapped (h : d.Represents l) (dest : List (Option α))
    (hroom : l.length ≤ dest.length) (hwrapped : d.endIndex < d.beginIndex) :
    ∃ dest', d.relocateAll dest = .ok dest' ∧ d.Relocated l dest dest' := by
  have hend := h.end_eq
  unfold Ring.place at hend
  have hbound : d.beginIndex < d.data.length := by
    have hbegin := h.begin_lt
    split at hend <;> omega
  have hcount : d.dataCapacity - d.beginIndex + d.endIndex = l.length := by
    unfold dataCapacity
    split at hend <;> omega
  have hfirst : ∀ i, i < d.dataCapacity - d.beginIndex → d.indexOf i = d.beginIndex + i := by
    intro i hi
    unfold dataCapacity at hi
    unfold indexOf Ring.place
    rw [if_pos (by omega)]
  have hsecond : ∀ i, d.dataCapacity - d.beginIndex ≤ i →
      d.indexOf i = i - (d.dataCapacity - d.beginIndex) := by
    intro i hi
    unfold dataCapacity at hi ⊢
    unfold indexOf Ring.place
    rw [if_neg (by omega)]
    omega
  obtain ⟨dest₁, hok₁, hlen₁, hmoved₁, _⟩ :=
    relocateUnwrappedRange_ok d.data dest d.beginIndex 0 (d.dataCapacity - d.beginIndex)
      (fun i hi => by rw [← hfirst i hi]; exact h.live (by omega)) (by omega)
  obtain ⟨dest₂, hok₂, hlen₂, hmoved₂, hkept⟩ :=
    relocateUnwrappedRange_ok d.data dest₁ 0 (d.dataCapacity - d.beginIndex) d.endIndex
      (fun i hi => by
        have hlive := h.live (i := d.dataCapacity - d.beginIndex + i) (by omega)
        rw [hsecond _ (by omega)] at hlive
        obtain ⟨v, hv⟩ := hlive
        exact ⟨v, by rw [← hv]; congr 1; omega⟩)
      (by omega)
  unfold relocateAll
  rw [if_neg (by omega), if_pos hwrapped]
  refine ⟨dest₂, ?_, hlen₂.trans hlen₁, ?_⟩
  · simp only [hok₁]
    exact hok₂
  · intro i hi
    by_cases hpiece : i < d.dataCapacity - d.beginIndex
    · rw [hkept i hpiece, hfirst i hpiece, ← hmoved₁ i hpiece, Nat.zero_add]
    · have hmoved := hmoved₂ (i - (d.dataCapacity - d.beginIndex)) (by omega)
      rw [hsecond i (by omega)]
      rw [show d.dataCapacity - d.beginIndex + (i - (d.dataCapacity - d.beginIndex)) = i by
        omega, Nat.zero_add] at hmoved
      exact hmoved

/-- Relocation moves the list to the first cells of the new buffer, wrapped or not. -/
theorem Represents.relocateAll_ok (h : d.Represents l) (dest : List (Option α))
    (hroom : l.length ≤ dest.length) :
    ∃ dest', d.relocateAll dest = .ok dest' ∧ d.Relocated l dest dest' := by
  rcases Nat.lt_trichotomy d.beginIndex d.endIndex with hunwrapped | heq | hwrapped
  · exact h.relocateAll_unwrapped dest hroom hunwrapped
  · have hnil : l = [] := h.begin_eq_end_iff.mp heq
    subst hnil
    refine ⟨dest, ?_, rfl, fun i hi => absurd hi (Nat.not_lt_zero i)⟩
    unfold relocateAll
    rw [if_neg (by omega), if_neg (by omega)]
  · exact h.relocateAll_wrapped dest hroom hwrapped

/-! ## Capacity -/

/-- The call ends with a deque that represents the list, or the allocator refused. -/
def Yields (l : List α) : Except DequeFault (QuicheCircularDeque α) → Prop
  | .ok d => d.Represents l
  | .error fault => fault = .badAlloc

theorem Represents.relocate_ok (h : d.Represents l) (traits : DequeTraits) (hroom : l.length ≤ n)
    (hn : n + 1 < 2 ^ 64) :
    d.relocate traits n = .error .badAlloc ∨
      ∃ d', d.relocate traits n = .ok d' ∧ d'.Represents l ∧ d'.data.length = n + 1 := by
  unfold relocate
  rw [addUint64_of_lt hn]
  by_cases hgrants : traits.grants (n + 1) = true
  · right
    obtain ⟨newData, hok, hlen, hmoved⟩ :=
      h.relocateAll_ok (List.replicate (n + 1) none) (by simp; omega)
    rw [List.length_replicate] at hlen
    refine ⟨⟨0, d.size, newData⟩, by simp [hgrants, hok], ?_, hlen⟩
    have haddr := traits.addressable (n + 1) hgrants
    constructor
    · show 0 < max 1 newData.length
      omega
    · show l.length < max 1 newData.length
      omega
    · show d.size = Ring.place newData.length 0 l.length
      rw [h.size_eq, Ring.place_from_zero (by omega)]
    · show Ring.Holds newData 0 l
      exact Ring.holds_moved h.holds (by omega) hmoved
    · show 3 * newData.length < 2 ^ 64
      omega
  · left
    simp [hgrants]

/-- The number of all cells wraps to zero, and a deque with an element has no place for it. -/
theorem Represents.relocate_max (h : d.Represents l) (traits : DequeTraits) (hl : l ≠ []) :
    d.relocate traits maxUint64 = .error .outOfBounds := by
  have hpos := List.length_pos_iff.mpr hl
  have hbegin := h.begin_lt_length hpos
  have hne : d.beginIndex ≠ d.endIndex := fun heq => hl (h.begin_eq_end_iff.mp heq)
  have hfirst : d.data[d.beginIndex]? = some (some l[0]) := by
    have := h.holds 0 l[0] (List.getElem?_eq_getElem hpos)
    rwa [Ring.place_zero hbegin] at this
  have hpiece : ∀ count, 0 < count →
      relocateUnwrappedRange d.data count d.beginIndex 0 [] = .error .outOfBounds := by
    intro count hcount
    obtain ⟨count, rfl⟩ := Nat.exists_eq_succ_of_ne_zero hcount.ne'
    rw [relocateUnwrappedRange, hfirst]
    rfl
  have hall : d.relocateAll ([] : List (Option α)) = .error .outOfBounds := by
    unfold relocateAll dataCapacity
    split_ifs with hlt hgt
    · exact hpiece _ (by omega)
    · simp only [hpiece _ (show 0 < d.data.length - d.beginIndex by omega)]
    · omega
  unfold relocate
  rw [show addUint64 maxUint64 1 = 0 from rfl, if_pos traits.grants_zero, List.replicate_zero,
    hall]

theorem Represents.relocate_max_of_nil (h : d.Represents ([] : List α)) (traits : DequeTraits) :
    d.relocate traits maxUint64 = .ok {} := by
  have heq := h.begin_eq_end_iff.mpr rfl
  have hsize : d.size = 0 := h.size_eq
  unfold relocate relocateAll
  rw [show addUint64 maxUint64 1 = 0 from rfl, if_pos traits.grants_zero, if_neg (by omega),
    if_neg (by omega), hsize]
  rfl

theorem Represents.relocate_yields (h : d.Represents l) (traits : DequeTraits)
    (hroom : l.length ≤ n) (hn : n < 2 ^ 64) (hmax : n = maxUint64 → l = []) :
    Yields l (d.relocate traits n) := by
  by_cases htop : n = maxUint64
  · obtain rfl := hmax htop
    rw [htop, h.relocate_max_of_nil traits]
    exact represents_nil
  · unfold maxUint64 at htop
    rcases h.relocate_ok traits hroom (by omega) with hbad | ⟨d', hok, hd', _⟩
    · rw [hbad]
      exact rfl
    · rw [hok]
      exact hd'

def expandedCapacity (traits : DequeTraits) (d : QuicheCircularDeque α) (k : Nat) : Nat :=
  max (d.size + k) (d.capacity + max traits.minCapacityIncrement (d.capacity / 4))

theorem Represents.maybeExpandCapacity_eq (h : d.Represents l) (traits : DequeTraits)
    (hk : l.length + k < 2 ^ 64) :
    d.maybeExpandCapacity traits k =
      if l.length + k ≤ d.capacity then .ok d
      else d.relocate traits (d.expandedCapacity traits k) := by
  have haddr := h.addressable
  have hcap : d.capacity = d.data.length - 1 := capacity_eq
  have hincrement := traits.increment_lt
  unfold maybeExpandCapacity expandedCapacity
  simp only [h.size_eq]
  rw [addUint64_of_lt hk, addUint64_of_lt (by omega)]

theorem Represents.maybeExpandCapacity_ok (h : d.Represents l) (traits : DequeTraits) (hpos : 0 < k)
    (hk : l.length + k + 1 < 2 ^ 64) :
    d.maybeExpandCapacity traits k = .error .badAlloc ∨
      ∃ d', d.maybeExpandCapacity traits k = .ok d' ∧ d'.Represents l ∧
        l.length + k < d'.data.length := by
  have haddr := h.addressable
  have hcap : d.capacity = d.data.length - 1 := capacity_eq
  have hincrement := traits.increment_lt
  have hsize := h.size_eq
  rw [h.maybeExpandCapacity_eq traits (by omega)]
  split
  · exact .inr ⟨d, rfl, h, by omega⟩
  · have hlarge : l.length + k ≤ d.expandedCapacity traits k := by
      unfold expandedCapacity
      omega
    have hsmall : d.expandedCapacity traits k + 1 < 2 ^ 64 := by
      unfold expandedCapacity
      omega
    rcases h.relocate_ok traits (by omega) hsmall with hbad | ⟨d', hok, hd', hlen⟩
    · exact .inl hbad
    · exact .inr ⟨d', hok, hd', by omega⟩

theorem Represents.maybeExpandCapacity_yields (h : d.Represents l) (traits : DequeTraits)
    (hk : l.length + k < 2 ^ 64) (hmax : l.length + k = maxUint64 → l = []) :
    Yields l (d.maybeExpandCapacity traits k) := by
  have haddr := h.addressable
  have hcap : d.capacity = d.data.length - 1 := capacity_eq
  have hincrement := traits.increment_lt
  have hsize := h.size_eq
  rw [h.maybeExpandCapacity_eq traits hk]
  split
  · exact h
  · apply h.relocate_yields traits
    · unfold expandedCapacity
      omega
    · unfold expandedCapacity
      omega
    · intro htop
      apply hmax
      unfold expandedCapacity at htop
      unfold maxUint64 at htop ⊢
      omega

theorem Represents.reserve_yields (h : d.Represents l) (traits : DequeTraits) (hn : n < 2 ^ 64)
    (hmax : n = maxUint64 → l = []) : Yields l (d.reserve traits n) := by
  have hfits := h.length_le_capacity
  unfold reserve
  split
  · exact h.relocate_yields traits (by omega) hn hmax
  · exact h

/-- A capacity that leaves no place for the spare cell. -/
theorem Represents.reserve_max (h : d.Represents l) (traits : DequeTraits) (hl : l ≠ []) :
    d.reserve traits maxUint64 = .error .outOfBounds := by
  have haddr := h.addressable
  have hcap : d.capacity = d.data.length - 1 := capacity_eq
  unfold reserve
  rw [if_pos (by unfold maxUint64; omega)]
  exact h.relocate_max traits hl

/-! ## Additions -/

theorem Represents.emplaceBack_yields (h : d.Represents l) (traits : DequeTraits) :
    Yields (l ++ [v]) (d.emplaceBack traits v) := by
  have hroom := h.room
  have haddr := h.addressable
  unfold emplaceBack
  rcases h.maybeExpandCapacity_ok traits (k := 1) (by omega) (by omega) with
    hbad | ⟨d', hok, hd', hlen⟩
  · rw [hbad]
    exact rfl
  · have hbegin := hd'.begin_lt
    have hend : d'.endIndex < d'.data.length := by
      rw [hd'.end_eq]
      exact Ring.place_lt (by omega) (by omega)
    have hnext := hd'.indexNext_indexOf (i := l.length) (by omega)
    simp only [hok, construct_of_lt hend]
    constructor
    · simpa using hbegin
    · simp only [List.length_append, List.length_cons, List.length_nil, List.length_set]
      omega
    · simp only [List.length_append, List.length_cons, List.length_nil, List.length_set]
      rw [hd'.end_eq]
      exact hnext
    · show Ring.Holds (d'.data.set d'.endIndex (some v)) d'.beginIndex (l ++ [v])
      rw [hd'.end_eq]
      exact hd'.holds.pushBack (by omega) (by omega)
    · simpa using hd'.addressable

theorem Represents.emplaceFront_yields (h : d.Represents l) (traits : DequeTraits) :
    Yields (v :: l) (d.emplaceFront traits v) := by
  have hroom := h.room
  have haddr := h.addressable
  unfold emplaceFront
  rcases h.maybeExpandCapacity_ok traits (k := 1) (by omega) (by omega) with
    hbad | ⟨d', hok, hd', hlen⟩
  · rw [hbad]
    exact rfl
  · have hbegin := hd'.begin_lt
    have hprev : d'.indexPrev d'.beginIndex =
        Ring.place d'.data.length d'.beginIndex (d'.data.length - 1) := by
      unfold indexPrev Ring.place dataCapacity subUint64
      split_ifs <;> omega
    have hfront : d'.indexPrev d'.beginIndex < d'.data.length := by
      rw [hprev]
      exact Ring.place_lt (by omega) (by omega)
    simp only [hok, construct_of_lt hfront]
    rw [hprev] at hfront ⊢
    constructor
    · simp only [List.length_set]
      omega
    · simp only [List.length_cons, List.length_set]
      omega
    · simp only [List.length_cons, List.length_set]
      rw [hd'.end_eq]
      exact (Ring.place_before (by omega) (by omega)).symm
    · exact hd'.holds.pushFront (by omega) (by omega)
    · simpa using hd'.addressable

theorem Represents.emplaceAll_yields (h : d.Represents l) (values : List α) :
    Yields (l ++ values) (emplaceAll traits (values.map some) d) := by
  induction values generalizing d l with
  | nil => simpa [emplaceAll, Yields] using h
  | cons v values ih =>
      have hstep := h.emplaceBack_yields traits (v := v)
      rw [List.map_cons, emplaceAll]
      cases hres : d.emplaceBack traits v with
      | error fault =>
          rw [hres] at hstep
          exact hstep
      | ok d' =>
          rw [hres] at hstep
          simpa using ih hstep

theorem Represents.emplaceUpTo_yields (h : d.Represents l) (hcount : l.length + n = count) :
    Yields (l ++ List.replicate n v) (emplaceUpTo traits count v n d) := by
  induction n generalizing d l with
  | zero => simpa [emplaceUpTo, Yields] using h
  | succ n ih =>
      have hstep := h.emplaceBack_yields traits (v := v)
      have hsize := h.size_eq
      rw [emplaceUpTo, if_pos (by omega)]
      cases hres : d.emplaceBack traits v with
      | error fault =>
          rw [hres] at hstep
          exact hstep
      | ok d' =>
          rw [hres] at hstep
          have hrest := ih (l := l ++ [v]) hstep (by simp; omega)
          rw [List.append_assoc, List.singleton_append, ← List.replicate_succ] at hrest
          exact hrest

theorem Represents.resize_yields (h : d.Represents l) (traits : DequeTraits)
    (hlt : l.length < count) (hcount : count < 2 ^ 64) (hmax : count = maxUint64 → l = []) :
    Yields (l ++ List.replicate (count - l.length) v) (d.resize traits count v) := by
  have hexpand := h.maybeExpandCapacity_yields traits (k := count - l.length)
    (by omega) (by rwa [Nat.add_sub_cancel' hlt.le])
  unfold resize
  rw [h.size_eq, if_pos hlt]
  cases hres : d.maybeExpandCapacity traits (count - l.length) with
  | error fault =>
      rw [hres] at hexpand
      exact hexpand
  | ok d' =>
      rw [hres] at hexpand
      exact Represents.emplaceUpTo_yields hexpand (by omega)

theorem Represents.resize_max (h : d.Represents l) (traits : DequeTraits) (hl : l ≠ []) :
    d.resize traits maxUint64 v = .error .outOfBounds := by
  have haddr := h.addressable
  have hcap : d.capacity = d.data.length - 1 := capacity_eq
  have hsize := h.size_eq
  have hfull := h.length_le_capacity
  have hincrement := traits.increment_lt
  have hexpanded : d.expandedCapacity traits (maxUint64 - l.length) = maxUint64 := by
    unfold expandedCapacity maxUint64
    omega
  unfold resize
  rw [hsize, if_pos (by unfold maxUint64; omega),
    h.maybeExpandCapacity_eq traits (by unfold maxUint64; omega),
    if_neg (by unfold maxUint64; omega), hexpanded, h.relocate_max traits hl]

theorem Represents.clear_represents (h : d.Represents l) : d.clear.Represents ([] : List α) where
  begin_lt := by
    show 0 < max 1 _
    omega
  room := by
    show 0 < max 1 _
    omega
  end_eq := by
    show 0 = Ring.place _ 0 0
    unfold Ring.place
    split <;> omega
  holds := Ring.holds_nil
  addressable := by
    show 3 * (destroyRange d.data d.beginIndex d.endIndex).length < 2 ^ 64
    rw [destroyRange_length]
    exact h.addressable

theorem Represents.difference_eq (h : d.Represents l) (hi : i ≤ l.length) (hk : k ≤ l.length) :
    (d.iteratorAt i).difference (d.iteratorAt k) = (i : Int) - k := by
  have hroom := h.room
  have haddr := h.addressable
  unfold Iterator.difference
  rw [h.externalPosition_eq hi, h.externalPosition_eq hk, toInt64_subUint64 (by omega) (by omega)]

/-- An assignment reads the elements of the other deque and none of its own. -/
theorem Represents.assign_yields {other : QuicheCircularDeque α} {values : List α}
    (h : d.Represents l) (traits : DequeTraits) (hother : other.Represents values) :
    Yields values (d.assign traits other) := by
  have hroom := hother.room
  have haddr := hother.addressable
  have hdistance : toUint64 (other.end.difference other.begin) = values.length := by
    rw [hother.end_eq_iteratorAt, hother.begin_eq,
      hother.difference_eq (Nat.le_refl _) (Nat.zero_le _)]
    unfold toUint64
    omega
  have hreserve := h.clear_represents.reserve_yields traits (n := values.length)
    (by omega) (fun _ => rfl)
  unfold assign
  rw [hdistance, hother.elements_eq]
  cases hres : d.clear.reserve traits values.length with
  | error fault =>
      rw [hres] at hreserve
      exact hreserve
  | ok d' =>
      rw [hres] at hreserve
      exact Represents.emplaceAll_yields hreserve values

/-! ## Removals -/

theorem Represents.drop_of_release (h : d.Represents l) (hn : n ≤ l.length)
    (hlen : data.length = d.data.length)
    (hsame : ∀ k, ¬ Ring.InArc d.beginIndex (d.indexOf n) k → data[k]? = d.data[k]?) :
    Represents { d with beginIndex := d.indexOf n, data } (l.drop n) := by
  have hbegin := h.begin_lt
  have hroom := h.room
  have haddr := h.addressable
  by_cases hempty : d.data.length = 0
  · have hzero : d.indexOf n = 0 := by
      unfold indexOf Ring.place
      split <;> omega
    have hnil : l = [] := List.length_eq_zero_iff.mp (by omega)
    subst hnil
    have hend : d.endIndex = 0 := by
      rw [h.end_eq]
      unfold Ring.place
      simp only [List.length_nil]
      split <;> omega
    rw [hzero, List.drop_nil, List.length_eq_zero_iff.mp (hlen.trans hempty)]
    exact ⟨by simp, by simp, by simp [hend, Ring.place], Ring.holds_nil, by simp⟩
  · constructor
    · show Ring.place _ _ _ < max 1 data.length
      have := Ring.place_lt (show d.beginIndex < d.data.length by omega)
        (show n ≤ d.data.length by omega)
      omega
    · simp only [List.length_drop]
      omega
    · show d.endIndex = Ring.place data.length (Ring.place _ _ _) (l.drop n).length
      rw [hlen, List.length_drop, Ring.place_place (by omega) (by omega),
        Nat.add_sub_cancel' hn]
      exact h.end_eq
    · exact h.holds.drop_of_release (by omega) hlen hn (by omega) hsame
    · show 3 * data.length < 2 ^ 64
      omega

theorem Represents.take_of_release (h : d.Represents l) (hn : n ≤ l.length)
    (hlen : data.length = d.data.length)
    (hsame : ∀ k, ¬ Ring.InArc (d.indexOf n) d.endIndex k → data[k]? = d.data[k]?) :
    Represents { d with endIndex := d.indexOf n, data } (l.take n) := by
  have hbegin := h.begin_lt
  have hroom := h.room
  have haddr := h.addressable
  rw [h.end_eq] at hsame
  constructor
  · show d.beginIndex < max 1 data.length
    omega
  · simp only [List.length_take]
    omega
  · show d.indexOf n = Ring.place data.length d.beginIndex (l.take n).length
    rw [hlen, List.length_take, Nat.min_eq_left hn]
    rfl
  · by_cases hempty : d.data.length = 0
    · have hnil : l = [] := List.length_eq_zero_iff.mp (by omega)
      rw [hnil, List.take_nil]
      exact Ring.holds_nil
    · exact h.holds.take_of_release hlen hn (by omega) hsame
  · show 3 * data.length < 2 ^ 64
    omega

theorem Represents.popFrontN_represents (h : d.Represents l) :
    (d.popFrontN n).1.Represents (l.drop n) ∧ (d.popFrontN n).2 = min n l.length := by
  have hbegin := h.begin_lt
  have hroom := h.room
  have haddr := h.addressable
  have hstep := h.indexIncrementBy_indexOf (i := 0) (j := min n l.length) (by omega) (by omega)
  rw [h.indexOf_zero, Nat.cast_zero, Int.sub_zero] at hstep
  have hdrop : l.drop n = l.drop (min n l.length) := by
    rcases Nat.le_total n l.length with hle | hge
    · rw [Nat.min_eq_left hle]
    · rw [Nat.min_eq_right hge, List.drop_eq_nil_of_le hge, List.drop_length]
  unfold popFrontN
  simp only [h.size_eq, and_true]
  rw [toInt64_of_lt (by omega), hstep, hdrop]
  apply h.drop_of_release (Nat.min_le_right _ _) destroyRange_length
  intro k hk
  apply destroyRange_outside _ hk
  omega

theorem Represents.popBackN_represents (h : d.Represents l) :
    (d.popBackN n).1.Represents (l.take (l.length - n)) ∧
      (d.popBackN n).2 = min n l.length := by
  have hbegin := h.begin_lt
  have hroom := h.room
  have haddr := h.addressable
  have hstep := h.indexIncrementBy_indexOf (i := l.length) (j := l.length - n) (by omega)
    (by omega)
  have hdelta : toInt64 (subUint64 0 (min n l.length)) =
      ((l.length - n : Nat) : Int) - l.length := by
    rw [toInt64_subUint64 (by omega) (by omega)]
    omega
  have hend : d.endIndex = d.indexOf l.length := h.end_eq
  unfold popBackN
  simp only [h.size_eq, and_true]
  rw [hdelta, hend, hstep]
  apply h.take_of_release (Nat.sub_le _ _) destroyRange_length
  rw [hend]
  intro k hk
  apply destroyRange_outside _ hk
  unfold indexOf Ring.place
  split <;> omega

theorem Represents.popFront_represents (h : d.Represents l) (hl : l ≠ []) :
    d.popFront.Represents l.tail := by
  have hpos := List.length_pos_iff.mpr hl
  have hbegin := h.begin_lt_length hpos
  have hroom := h.room
  have hnext := h.indexNext_indexOf (i := 0) (by omega)
  rw [h.indexOf_zero, Nat.zero_add] at hnext
  unfold popFront
  rw [hnext, ← List.drop_one]
  apply h.drop_of_release (by omega) (List.length_set ..)
  intro k hk
  apply List.getElem?_set_ne
  rintro rfl
  have harc := Ring.inArc_place_iff d.beginIndex (Nat.zero_le 1)
    (show 1 < d.data.length by omega) (show 0 < d.data.length by omega)
  rw [Ring.place_zero hbegin] at harc
  exact hk (harc.mpr (by omega))

theorem Represents.popBack_represents (h : d.Represents l) (hl : l ≠ []) :
    d.popBack.Represents l.dropLast := by
  have hpos := List.length_pos_iff.mpr hl
  have hroom := h.room
  have hprev := @indexPrev_indexOf _ d l.length (by omega) hpos
  have hend : d.endIndex = d.indexOf l.length := h.end_eq
  unfold popBack
  simp only
  rw [hend, hprev, List.dropLast_eq_take]
  apply h.take_of_release (by omega) (List.length_set ..)
  intro k hk
  apply List.getElem?_set_ne
  rintro rfl
  rw [h.end_eq] at hk
  have harc := Ring.inArc_place_iff d.beginIndex (Nat.sub_le l.length 1)
    (show l.length < d.data.length by omega) (show l.length - 1 < d.data.length by omega)
  exact hk (harc.mpr (by omega))

end QuicheCircularDeque

end BbrChrome
