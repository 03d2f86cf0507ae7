import BbrChrome.Congestion.ProbingBounds

/-!
# STARTUP never slows down

While the sender stays in STARTUP the short-term bounds are unset and the full bandwidth has not
been reached, so that neither the window nor, once something was acked, the pacing rate gives way.
-/

namespace BbrChrome

namespace Limits

variable {limits : Limits} {floor raw : Nat}

theorem le_applyLimits (hmax : floor ≤ limits.max) (hraw : floor ≤ raw) :
    floor ≤ limits.applyLimits raw :=
  le_min hmax (hraw.trans (le_max_right _ _))

end Limits

namespace Bbr2Sender

variable {s s' s'' : Bbr2Sender} {event : Bbr2CongestionEvent} {limit : Nat}

/-! ## The two updates -/

theorem updateCongestionWindow_le (hmode : s.mode = .startup)
    (hgrowth : s.model.fullBandwidthReached = false) (hlo : s.model.inflightLo = maxUint64)
    (hfits : s.cwnd ≤ maxUint64) (hcap : s.cwnd ≤ s.params.cwndLimits.max) (bytesAcked : Nat) :
    s.cwnd ≤ (s.updateCongestionWindow bytesAcked).cwnd := by
  have hlimits : s.getCwndLimitsByMode = .noGreaterThan maxUint64 := by
    unfold getCwndLimitsByMode
    rw [hmode, ← hlo]
  unfold updateCongestionWindow
  dsimp only
  rw [hlimits, hgrowth, if_neg Bool.false_ne_true]
  apply Limits.le_applyLimits hcap
  apply Limits.le_applyLimits hfits
  split
  · exact Nat.le_add_right _ _
  · exact le_refl _

/-- Behind the first ack the rate gives way only for a sender that has left STARTUP. -/
theorem updatePacingRate_le (hs : s.HasDefaults) (hgrowth : s.model.fullBandwidthReached = false)
    {bytesAcked : Nat} (hacked : s.model.totalBytesAcked ≠ bytesAcked) :
    s.pacingRate ≤ (s.updatePacingRate bytesAcked).pacingRate := by
  have hpacing : s.params.decreaseStartupPacingAtEndOfRound = false := hs.startupPacing
  have hlo : s.params.bwLoMode = .default := hs.bwLoMode
  unfold updatePacingRate
  split
  · exact le_refl _
  · simp only [hgrowth, hpacing, hlo, Bool.false_and, Bool.false_or, bne_self_eq_false,
      Bool.false_eq_true, if_false]
    exact le_max_left _ _

/-! ## An operation in STARTUP -/

/-- `s'` has the window and the rate of `s`, or a larger one. -/
structure NotSlower (s s' : Bbr2Sender) : Prop where
  cwnd : s.cwnd ≤ s'.cwnd
  pacingRate : 0 < s.model.totalBytesAcked → s.pacingRate ≤ s'.pacingRate
  totalBytesAcked : s.model.totalBytesAcked ≤ s'.model.totalBytesAcked

theorem NotSlower.refl (s : Bbr2Sender) : NotSlower s s :=
  ⟨le_refl _, fun _ => le_refl _, le_refl _⟩

theorem NotSlower.trans (h : NotSlower s s') (h' : NotSlower s' s'') : NotSlower s s'' where
  cwnd := h.cwnd.trans h'.cwnd
  pacingRate hacked :=
    (h.pacingRate hacked).trans (h'.pacingRate (Nat.lt_of_lt_of_le hacked h.totalBytesAcked))
  totalBytesAcked := h.totalBytesAcked.trans h'.totalBytesAcked

theorem startupOnCongestionEvent_stays
    (hstay : (s.startupOnCongestionEvent event).2 = .startup) :
    (s.startupOnCongestionEvent event).1.model.fullBandwidthReached = false := by
  unfold startupOnCongestionEvent at *
  dsimp only at *
  by_contra hfull
  rw [if_pos (by simpa using hfull)] at hstay
  cases hstay

theorem sampled_totalBytesAcked (priorInFlight : Nat) (eventTime : Int)
    (ackedPackets : List AckedPacket) (lostPackets : List LostPacket) :
    (s.sampled priorInFlight eventTime ackedPackets lostPackets).model.totalBytesAcked =
      s.model.totalBytesAcked +
        (s.congestionEvent priorInFlight eventTime ackedPackets lostPackets).bytesAcked := by
  have haccounts := congrArg SamplerAccounts.totalBytesAcked
    (@Bbr2NetworkModel.accounts_onCongestionEventStart s.model
      (s.startCongestionEvent priorInFlight) eventTime ackedPackets lostPackets)
  unfold congestionEvent
  rw [sampled_model, Bbr2NetworkModel.onCongestionEventStart_bytesAcked]
  exact haccounts

theorem sampled_startup (hs : s.HasDefaults) (priorInFlight : Nat) (eventTime : Int)
    (ackedPackets : List AckedPacket) (lostPackets : List LostPacket) :
    let handled := ((s.sampled priorInFlight eventTime ackedPackets
      lostPackets).startupOnCongestionEvent
        (s.congestionEvent priorInFlight eventTime ackedPackets lostPackets)).1
    handled.cwnd = s.cwnd ∧ handled.pacingRate = s.pacingRate ∧
      handled.model.params = s.model.params ∧
      handled.model.totalBytesAcked = s.model.totalBytesAcked +
        (s.congestionEvent priorInFlight eventTime ackedPackets lostPackets).bytesAcked := by
  have hsampled := @sampled_changes s priorInFlight eventTime ackedPackets lostPackets
  have hhandled := @startupOnCongestionEvent_changes
    (s.sampled priorInFlight eventTime ackedPackets lostPackets)
    (s.congestionEvent priorInFlight eventTime ackedPackets lostPackets)
  have hacked := @sampled_totalBytesAcked s priorInFlight eventTime ackedPackets lostPackets
  have hlimits := (s.sampled_move hs.bwLoMode priorInFlight eventTime ackedPackets
    lostPackets).params_eq
  exact ⟨(hhandled.keeps cwnd rfl).trans (hsampled.keeps cwnd rfl),
    (hhandled.keeps pacingRate rfl).trans (hsampled.keeps pacingRate rfl),
    (hhandled.keeps (·.model.params) rfl).trans hlimits,
    (hhandled.keeps (·.model.totalBytesAcked) rfl).trans hacked⟩

/-! ## Runs -/

/-- The short-term bounds are unset in STARTUP and the window lies in its range. -/
structure GrowsFreely (limit : Nat) (s : Bbr2Sender) : Prop where
  defaults : s.HasDefaults
  probesFreely : s.control.ProbesFreely
  limited : s.WindowLimited limit

theorem GrowsFreely.call (h : s.GrowsFreely limit) (c : Bbr2Call) :
    (s.call c).GrowsFreely limit := by
  have hprobes : (s.call c).control.ProbesFreely :=
    h.defaults.control_call (fun _ _ _ _ _ _ hc hmove => hc.sendMove hmove)
      (fun _ _ _ _ _ hc hmove => hc.eventMove hmove) h.probesFreely c
  exact ⟨h.defaults.call c, hprobes, h.limited.call h.defaults c⟩

theorem notSlower_congestionEvent (h : s.GrowsFreely limit) (hfits : limit ≤ maxUint64)
    (leastUnacked priorInFlight : Nat) (eventTime : Int) (ackedPackets : List AckedPacket)
    (lostPackets : List LostPacket)
    (hstay : (s.onCongestionEvent leastUnacked priorInFlight eventTime ackedPackets
      lostPackets).mode = .startup) :
    NotSlower s (s.onCongestionEvent leastUnacked priorInFlight eventTime ackedPackets
      lostPackets) := by
  have hmove := onCongestionEvent_move h.defaults leastUnacked priorInFlight eventTime
    ackedPackets lostPackets
  have hunbounded := ((h.probesFreely.eventMove hmove).unbounded (.inl hstay)).2
  have hmore : s.model.totalBytesAcked ≤ (s.onCongestionEvent leastUnacked priorInFlight eventTime
      ackedPackets lostPackets).model.totalBytesAcked := by
    have haccounts := congrArg SamplerAccounts.totalBytesAcked
      (@onCongestionEvent_accounts s leastUnacked priorInFlight eventTime ackedPackets lostPackets)
    exact (Nat.le_add_right _ _).trans (Nat.le_of_eq haccounts.symm)
  obtain ⟨-, hnext, heq⟩ := onCongestionEvent_eq_startup h.defaults leastUnacked priorInFlight
    eventTime ackedPackets lostPackets hstay
  obtain ⟨hcwnd, hrate, hparams, htotal⟩ := sampled_startup h.defaults priorInFlight eventTime
    ackedPackets lostPackets
  have hgrowth := startupOnCongestionEvent_stays hnext
  rw [heq] at hstay hunbounded hmore ⊢
  generalize s.congestionEvent priorInFlight eventTime ackedPackets lostPackets = event at *
  generalize (Bbr2Sender.startupOnCongestionEvent _ event).1 = handled at *
  have hcontrol := @control_finishCongestionEvent handled event leastUnacked
  have hmode : handled.mode = .startup := by
    have hkept := congrArg Control.mode hcontrol
    rw [Control.maybeEnterQuiescence_mode] at hkept
    exact hkept.symm.trans hstay
  have hlo : handled.model.inflightLo = maxUint64 := by
    rw [hcontrol] at hunbounded
    unfold Control.maybeEnterQuiescence at hunbounded
    split at hunbounded
    · exact hunbounded
    · exact hunbounded
  refine ⟨?_, fun hpositive => ?_, hmore⟩
  · rw [finishCongestionEvent_cwnd, ← hcwnd]
    have hcap : handled.cwnd ≤ limit := hcwnd ▸ h.limited.cwnd_le
    have hmax : handled.model.params.cwndLimits.max = limit := hparams ▸ h.limited.limits
    exact updateCongestionWindow_le hmode hgrowth hlo (hcap.trans hfits) (hmax ▸ hcap)
      event.bytesAcked
  · rw [finishCongestionEvent_pacingRate, ← hrate]
    have hdefaults : handled.HasDefaults := by
      unfold HasDefaults
      rw [hparams]
      exact h.defaults
    exact updatePacingRate_le hdefaults hgrowth (by omega)

theorem notSlower_packetSent (hs : s.HasDefaults) (sentTime : Int)
    (bytesInFlight packetNumber bytes : Nat)
    (hstay : (s.onPacketSent sentTime bytesInFlight packetNumber bytes).mode = .startup) :
    NotSlower s (s.onPacketSent sentTime bytesInFlight packetNumber bytes) := by
  have hmode := startup_of_call hs (.packetSent sentTime bytesInFlight packetNumber bytes) hstay
  obtain ⟨stats, quiescenceStart, heq⟩ := onPacketSent_eq_startup hmode sentTime bytesInFlight
    packetNumber bytes
  obtain ⟨e, haccounts, _⟩ := @BandwidthSampler.accounts_onPacketSent s.model.bandwidthSampler
    sentTime packetNumber bytes bytesInFlight
  rw [heq]
  exact ⟨le_refl _, fun _ => le_refl _,
    Nat.le_of_eq (congrArg SamplerAccounts.totalBytesAcked haccounts).symm⟩

theorem notSlower_call (h : s.GrowsFreely limit) (hfits : limit ≤ maxUint64) (c : Bbr2Call)
    (hstay : (s.call c).mode = .startup) : NotSlower s (s.call c) := by
  cases c with
  | packetSent => exact notSlower_packetSent h.defaults _ _ _ _ hstay
  | congestionEvent => exact notSlower_congestionEvent h hfits _ _ _ _ _ hstay

theorem startup_of_run (hs : s.HasDefaults) {calls : List Bbr2Call}
    (hstay : (s.run calls).mode = .startup) : s.mode = .startup := by
  induction calls generalizing s with
  | nil => exact hstay
  | cons c calls ih => exact startup_of_call hs c (ih (hs.call c) hstay)

theorem notSlower_run (h : s.GrowsFreely limit) (hfits : limit ≤ maxUint64)
    {calls : List Bbr2Call} (hstay : (s.run calls).mode = .startup) :
    NotSlower s (s.run calls) := by
  induction calls generalizing s with
  | nil => exact NotSlower.refl s
  | cons c calls ih =>
      have hnext := h.call c
      have hstep := notSlower_call h hfits c (startup_of_run hnext.defaults hstay)
      exact hstep.trans (ih hnext hstay)

/-- As long as the sender is in STARTUP its window never decreases, nor does the pacing rate once
something was acked. The largest window has to fit its type. -/
theorem startup_notSlower (now : Int) (rttStats : RttStats) (initialCwnd maxCwnd : Nat)
    (hfits : maxCwnd * kDefaultTCPMSS ≤ maxUint64) (stream : Nat → Nat)
    (calls calls' : List Bbr2Call)
    (hstay : ((create now rttStats initialCwnd maxCwnd stream).run (calls ++ calls')).mode =
      .startup) :
    NotSlower ((create now rttStats initialCwnd maxCwnd stream).run calls)
      ((create now rttStats initialCwnd maxCwnd stream).run (calls ++ calls')) := by
  have hcreate : (create now rttStats initialCwnd maxCwnd stream).GrowsFreely
      (maxCwnd * kDefaultTCPMSS) :=
    ⟨create_hasDefaults now rttStats initialCwnd maxCwnd stream,
      create_probesFreely now rttStats initialCwnd maxCwnd stream,
      create_windowLimited now rttStats initialCwnd maxCwnd stream⟩
  have hgrows := run_invariant (fun _ c h => h.call c) hcreate calls
  rw [run_append] at hstay ⊢
  exact notSlower_run hgrows hfits hstay

/-- A round trip with a loss behind two without. -/
theorem startup_notSlower_of_loss :
    NotSlower ((create 0 {} 32 2000 id).run (roundTrips 2 1460))
      ((create 0 {} 32 2000 id).run (roundTrips 2 1460 ++
        [.packetSent 5000 0 3 1460, .packetSent 5001 1460 4 1460,
          .congestionEvent 5 2920 7000 [⟨4, 1460, 7000⟩] [⟨3, 1460⟩]])) :=
  startup_notSlower 0 {} 32 2000 (by decide) id _ _ (by decide +kernel)

end Bbr2Sender

end BbrChrome
