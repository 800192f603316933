import Fluoride.L2cap.Ble

/-!
# L2CAP LE — the pending enhanced credit-based request over every run

What the link's pending-request bookkeeping does across any interleaving of signalling
packets and upper-layer calls:

* **the bounds hold** (`pendingInv_reachable`): on every reachable link the pending count
  is at most `L2CAP_CREDIT_BASED_MAX_CIDS` and the CID array keeps its five entries;
* **a peer's request that passes the collision check leaves its count behind**
  (`processCreditBasedConnReq_pendingEcocConnCnt`), whichever of the three later
  rejections answers it;
* **a pending count shuts both directions** (`connectionRequests_keep_pending`): while it
  is positive, every enhanced Credit Based Connection Request the peer sends and every
  `L2CA_ConnectCreditBasedReq` is refused, and no channel is created.

Each operation gets its frame lemmas first (what it leaves alone), then one lemma per
signalling branch, then the step and run lemmas over `leLink`.
-/

namespace L2cap

namespace Lcb

/-- The pending request's bookkeeping: the count and the CID array. -/
def pending (l : Lcb) : Nat × List Nat := (l.pendingEcocConnCnt, l.pendingEcocConnectionCids)

@[simp] theorem send_pending (l : Lcb) (o : LeOutput) : (l.send o).pending = l.pending := rfl
@[simp] theorem send_pendingEcocConnCnt (l : Lcb) (o : LeOutput) :
    (l.send o).pendingEcocConnCnt = l.pendingEcocConnCnt := rfl
@[simp] theorem send_pendingEcocConnectionCids (l : Lcb) (o : LeOutput) :
    (l.send o).pendingEcocConnectionCids = l.pendingEcocConnectionCids := rfl
@[simp] theorem send_ccbs (l : Lcb) (o : LeOutput) : (l.send o).ccbs = l.ccbs := rfl
@[simp] theorem send_out (l : Lcb) (o : LeOutput) : (l.send o).out = l.out ++ [o] := rfl

@[simp] theorem modifyCcb_pending (l : Lcb) (cid : Nat) (f : LeCcb → LeCcb) :
    (l.modifyCcb cid f).pending = l.pending := rfl
@[simp] theorem modifyCcb_pendingEcocConnCnt (l : Lcb) (cid : Nat) (f : LeCcb → LeCcb) :
    (l.modifyCcb cid f).pendingEcocConnCnt = l.pendingEcocConnCnt := rfl
@[simp] theorem modifyCcb_pendingEcocConnectionCids (l : Lcb) (cid : Nat) (f : LeCcb → LeCcb) :
    (l.modifyCcb cid f).pendingEcocConnectionCids = l.pendingEcocConnectionCids := rfl

@[simp] theorem releaseCcb_pending (l : Lcb) (cid : Nat) :
    (l.releaseCcb cid).pending = l.pending := by
  unfold releaseCcb
  split <;> rfl

theorem allocateCcb_pending {l l' : Lcb} {cid : Nat} (h : l.allocateCcb = some (l', cid)) :
    l'.pending = l.pending := by
  unfold allocateCcb at h
  split at h
  · cases h
  · simp only [Option.some.injEq, Prod.mk.injEq] at h
    obtain ⟨rfl, rfl⟩ := h
    rfl

@[simp] theorem clearPending_pendingEcocConnCnt (l : Lcb) : l.clearPending.pendingEcocConnCnt = 0 :=
  rfl

@[simp] theorem length_clearPending (l : Lcb) :
    l.clearPending.pendingEcocConnectionCids.length = l.pendingEcocConnectionCids.length := by
  simp [clearPending]

@[simp] theorem setPendingCid_pendingEcocConnCnt (l : Lcb) (i cid : Nat) :
    (l.setPendingCid i cid).pendingEcocConnCnt = l.pendingEcocConnCnt := rfl

@[simp] theorem length_setPendingCid (l : Lcb) (i cid : Nat) :
    (l.setPendingCid i cid).pendingEcocConnectionCids.length =
      l.pendingEcocConnectionCids.length := by
  simp [setPendingCid]

theorem pending_eq_iff {l l' : Lcb} : l'.pending = l.pending ↔
    l'.pendingEcocConnCnt = l.pendingEcocConnCnt ∧
      l'.pendingEcocConnectionCids = l.pendingEcocConnectionCids := by
  simp [pending]

/-- A fold of operations that each keep the bookkeeping keeps it. -/
theorem foldl_pending {α : Type} (f : Lcb → α → Lcb) (hf : ∀ l a, (f l a).pending = l.pending) :
    ∀ (xs : List α) (l : Lcb), (xs.foldl f l).pending = l.pending
  | [], _ => rfl
  | x :: xs, l => by rw [List.foldl_cons, foldl_pending f hf xs, hf]

end Lcb

/-! ## §1 — the invariant and what each operation does to it -/

/-- The bounds on the bookkeeping that every reachable link keeps. -/
structure PendingInv (l : Lcb) : Prop where
  /-- At most `L2CAP_CREDIT_BASED_MAX_CIDS` channels are pending. -/
  cnt_le : l.pendingEcocConnCnt ≤ l2capCreditBasedMaxCids
  /-- The CID array keeps its `L2CAP_CREDIT_BASED_MAX_CIDS` entries. -/
  length_cids : l.pendingEcocConnectionCids.length = l2capCreditBasedMaxCids

theorem PendingInv.of_pending_eq {l l' : Lcb} (h : PendingInv l) (he : l'.pending = l.pending) :
    PendingInv l' := by
  obtain ⟨hc, hl⟩ := Lcb.pending_eq_iff.mp he
  exact ⟨hc ▸ h.cnt_le, hl ▸ h.length_cids⟩

theorem PendingInv.clearPending {l : Lcb} (h : PendingInv l) : PendingInv l.clearPending :=
  ⟨by simp, by simpa using h.length_cids⟩

theorem pendingInv_initial (freeCids : List Nat) : PendingInv (Lcb.initial freeCids) :=
  ⟨Nat.zero_le _, List.length_replicate ..⟩

/-- The channel loop of a peer's request writes the CID array in place and leaves the
count. -/
theorem allocateRequestedCcbs_pending (id : Nat) :
    ∀ (l : Lcb) (i : Nat) (rcids : List Nat),
      (allocateRequestedCcbs id l i rcids).1.pendingEcocConnCnt = l.pendingEcocConnCnt ∧
      (allocateRequestedCcbs id l i rcids).1.pendingEcocConnectionCids.length =
        l.pendingEcocConnectionCids.length
  | l, _, [] => ⟨rfl, rfl⟩
  | l, i, rcid :: rest => by
    -- the iteration's own update, then the rest of the loop from there
    have hstep : ∀ l' : Lcb,
        l'.pendingEcocConnCnt = l.pendingEcocConnCnt ∧
          l'.pendingEcocConnectionCids.length = l.pendingEcocConnectionCids.length →
        (allocateRequestedCcbs id l' (i + 1) rest).1.pendingEcocConnCnt = l.pendingEcocConnCnt ∧
          (allocateRequestedCcbs id l' (i + 1) rest).1.pendingEcocConnectionCids.length =
            l.pendingEcocConnectionCids.length := by
      rintro l' ⟨hc, hl⟩
      obtain ⟨hc', hl'⟩ := allocateRequestedCcbs_pending id l' (i + 1) rest
      exact ⟨hc'.trans hc, hl'.trans hl⟩
    simp only [allocateRequestedCcbs]
    split_ifs
    · exact hstep _ ⟨rfl, by simp⟩
    · split
      · exact hstep _ ⟨rfl, by simp⟩
      · rename_i l₁ cid hal
        obtain ⟨hc, hl⟩ := Lcb.pending_eq_iff.mp (Lcb.allocateCcb_pending hal)
        exact hstep _ ⟨hc, by simp [hl]⟩

/-- The peer's enhanced request gets past the collision check: it is long enough, asks
for at most `L2CAP_CREDIT_BASED_MAX_CIDS` channels of a registered PSM, and nothing is
pending. -/
def PassesCollisionCheck (rcbs : List Rcb) (l : Lcb) (p : List UInt8) : Prop :=
  10 ≤ p.length ∧ (p.length - 8) / 2 % 256 ≤ l2capCreditBasedMaxCids ∧
    (l2cuFindBleRcbByPsm rcbs (readLe16 p)).isSome ∧ l.pendingEcocConnCnt = 0

/-- A request stopped before or at the collision check changes neither the bookkeeping nor
the CCBs: it is dropped or answered with a rejection. -/
theorem processCreditBasedConnReq_of_not_passes {rcbs : List Rcb} {l : Lcb} {p : List UInt8}
    (hp : ¬ PassesCollisionCheck rcbs l p) (id : Nat) :
    (processCreditBasedConnReq rcbs l id p).pending = l.pending ∧
      (processCreditBasedConnReq rcbs l id p).ccbs = l.ccbs := by
  unfold PassesCollisionCheck at hp
  unfold processCreditBasedConnReq
  by_cases hlen : p.length < 10
  · simp [hlen]
  rw [if_neg hlen]
  dsimp only
  by_cases hnum : (p.length - 8) / 2 % 256 > l2capCreditBasedMaxCids
  · simp [hnum, l2cuRejectCreditBasedConnReq]
  rw [if_neg hnum]
  cases hrcb : l2cuFindBleRcbByPsm rcbs (readLe16 p) with
  | none => simp [l2cuRejectCreditBasedConnReq]
  | some rcb =>
    -- the conditions all hold but the last: something is pending, a collision
    have hpend : l.pendingEcocConnCnt > 0 := by
      rw [hrcb] at hp
      simp only [Option.isSome_some, true_and] at hp
      omega
    dsimp only
    rw [if_pos hpend]
    split <;> simp [l2cuRejectCreditBasedConnReq]

/-- **A request past the collision check leaves its count behind**, on every path after it:
the callback check, the parameter check, the channel loop and their rejections alike. -/
theorem processCreditBasedConnReq_pendingEcocConnCnt {rcbs : List Rcb} {l : Lcb}
    {p : List UInt8} (hp : PassesCollisionCheck rcbs l p) (id : Nat) :
    (processCreditBasedConnReq rcbs l id p).pendingEcocConnCnt = (p.length - 8) / 2 % 256 ∧
      (processCreditBasedConnReq rcbs l id p).pendingEcocConnectionCids.length =
        l.pendingEcocConnectionCids.length := by
  obtain ⟨hlen, hnum, hrcb, hpend⟩ := hp
  obtain ⟨rcb, hrcb⟩ := Option.isSome_iff_exists.mp hrcb
  unfold processCreditBasedConnReq
  rw [if_neg (by omega)]
  dsimp only
  rw [if_neg (by omega), hrcb]
  dsimp only
  rw [if_neg (by omega)]
  split_ifs
  · simp [l2cuRejectCreditBasedConnReq]
  · simp [l2cuRejectCreditBasedConnReq]
  · -- the channel loop keeps the count, whichever way it ends
    split
    all_goals
      rename_i heq
      have h := allocateRequestedCcbs_pending id
        { l with pendingEcocConnCnt := (p.length - 8) / 2 % 256 } 0
        ((List.range ((p.length - 8) / 2 % 256)).map fun i => readLe16 (p.drop (8 + 2 * i)))
      rw [heq] at h
      simpa [l2cuRejectCreditBasedConnReq] using h

theorem pendingInv_processCreditBasedConnReq (rcbs : List Rcb) {l : Lcb} (h : PendingInv l)
    (id : Nat) (p : List UInt8) : PendingInv (processCreditBasedConnReq rcbs l id p) := by
  by_cases hp : PassesCollisionCheck rcbs l p
  · obtain ⟨hc, hl⟩ := processCreditBasedConnReq_pendingEcocConnCnt hp id
    exact ⟨hc ▸ hp.2.1, hl.trans h.length_cids⟩
  · exact h.of_pending_eq (processCreditBasedConnReq_of_not_passes hp id).1

theorem processBleCreditBasedConnReq_pending (rcbs : List Rcb) (l : Lcb) (id : Nat)
    (p : List UInt8) : (processBleCreditBasedConnReq rcbs l id p).pending = l.pending := by
  unfold processBleCreditBasedConnReq
  dsimp only
  split
  · rfl
  split
  · simp
  split
  · simp
  split
  · simp
  split
  · simp
  rename_i heq
  have h := Lcb.allocateCcb_pending heq
  split <;> simp [h]

theorem pendingInv_l2cbleHandleConnectRspNeg {l : Lcb} (h : PendingInv l) :
    PendingInv (l2cbleHandleConnectRspNeg l) :=
  (h.of_pending_eq (Lcb.foldl_pending _ Lcb.releaseCcb_pending _ _)).clearPending

theorem connectRspChannels_pending :
    ∀ (l : Lcb) (chans : List (Nat × Nat)), (connectRspChannels l chans).pending = l.pending
  | _, [] => rfl
  | l, (cid, rcid) :: rest => by
    unfold connectRspChannels
    rw [connectRspChannels_pending _ rest]
    split
    · simp
    · split
      · simp
      · split_ifs <;> simp

theorem pendingInv_processCreditBasedConnRes {l : Lcb} (h : PendingInv l) (id : Nat)
    (p : List UInt8) : PendingInv (processCreditBasedConnRes l id p) := by
  unfold processCreditBasedConnRes
  split_ifs
  · exact h
  · split
    · exact h
    · dsimp only
      split_ifs
      · exact pendingInv_l2cbleHandleConnectRspNeg h
      · exact pendingInv_l2cbleHandleConnectRspNeg h
      · exact h
      · -- the bookkeeping is reset before the channel loop
        refine PendingInv.of_pending_eq ⟨Nat.zero_le _, by simp [l2capCreditBasedMaxCids]⟩
          (connectRspChannels_pending _ _)

theorem pendingInv_l2cbleProcessSigCmd (rcbs : List Rcb) {l : Lcb} (h : PendingInv l)
    (pkt : List UInt8) : PendingInv (l2cbleProcessSigCmd rcbs l pkt) := by
  unfold l2cbleProcessSigCmd
  split
  · dsimp only
    split_ifs
    all_goals first
      | exact h
      | exact pendingInv_l2cbleHandleConnectRspNeg h
      | exact h.of_pending_eq (processBleCreditBasedConnReq_pending ..)
      | exact pendingInv_processCreditBasedConnReq rcbs h ..
      | exact pendingInv_processCreditBasedConnRes h ..
  · exact h

/-- Our own allocation loop takes at most the channels asked for and leaves the
bookkeeping. -/
theorem allocateOwnCcbs_spec :
    ∀ (l : Lcb) (n : Nat), (allocateOwnCcbs l n).1.pending = l.pending ∧
      (allocateOwnCcbs l n).2.length ≤ n
  | l, 0 => ⟨rfl, le_refl _⟩
  | l, n + 1 => by
    unfold allocateOwnCcbs
    split
    · exact ⟨rfl, Nat.zero_le _⟩
    · rename_i l₁ cid hal
      obtain ⟨hp, hlen⟩ := allocateOwnCcbs_spec l₁ n
      exact ⟨hp.trans (Lcb.allocateCcb_pending hal), by simpa using hlen⟩

theorem pendingInv_l2caConnectCreditBasedReq (rcbs : List Rcb) {l : Lcb} (h : PendingInv l)
    (psm n : Nat) : PendingInv (l2caConnectCreditBasedReq rcbs l psm n).1 := by
  unfold l2caConnectCreditBasedReq
  split
  · exact h
  by_cases hpend : l.pendingEcocConnCnt > 0
  · rw [if_pos hpend]
    exact h
  rw [if_neg hpend]
  dsimp only
  -- the channels asked for, capped at `L2CAP_CREDIT_BASED_MAX_CIDS`
  generalize hk : (if n > l2capCreditBasedMaxCids ∨ n = 0 then l2capCreditBasedMaxCids
    else n) = k
  have hk5 : k ≤ l2capCreditBasedMaxCids := by
    subst hk
    split_ifs <;> omega
  obtain ⟨hp, hlen⟩ := allocateOwnCcbs_spec l k
  generalize allocateOwnCcbs l k = r at hp hlen
  obtain ⟨l₁, cids⟩ := r
  cases cids with
  | nil => exact h
  | cons lead tail =>
    have hl : l₁.pendingEcocConnectionCids.length = l2capCreditBasedMaxCids := by
      rw [(Lcb.pending_eq_iff.mp hp).2]
      exact h.length_cids
    simp only [List.length_cons] at hlen
    constructor
    · simp only [Lcb.send_pendingEcocConnCnt, Lcb.modifyCcb_pendingEcocConnCnt, List.length_cons]
      omega
    · simp only [Lcb.send_pendingEcocConnectionCids, Lcb.modifyCcb_pendingEcocConnectionCids,
        List.length_append, List.length_cons, List.length_drop, hl]
      omega

theorem pendingInv_l2caConnectCreditBasedRsp {l : Lcb} (h : PendingInv l) (id : Nat)
    (acceptedLcids : List Nat) (result : Nat) :
    PendingInv (l2caConnectCreditBasedRsp l id acceptedLcids result) := by
  unfold l2caConnectCreditBasedRsp
  split
  · exact h
  rename_i lead _
  by_cases hany : (acceptedLcids.any fun cid => (l.findCcbByCid cid).isNone) = true
  · rw [if_pos hany]
    exact h
  rw [if_neg hany]
  by_cases hid : lead.remoteId ≠ id
  · rw [if_pos hid]
    exact h
  rw [if_neg hid]
  dsimp only
  -- both folds only open and release channels, and the bookkeeping is cleared after
  refine PendingInv.clearPending (h.of_pending_eq ?_)
  by_cases hacc : acceptedLcids ≠ []
  · rw [if_pos hacc, Lcb.foldl_pending]
    · simp
    · intro l cid
      split_ifs
      · rfl
      all_goals split <;> simp
  · rw [if_neg hacc, Lcb.foldl_pending]
    · simp
    · intro l cid
      split <;> simp

/-! ## §2 — over every run -/

theorem pendingInv_leExec (rcbs : List Rcb) {l : Lcb} (h : PendingInv l) (e : LeEvent) :
    PendingInv (leExec rcbs l e) := by
  cases e with
  | sigCmd pkt => exact pendingInv_l2cbleProcessSigCmd rcbs h pkt
  | connectCreditBasedReq psm n => exact pendingInv_l2caConnectCreditBasedReq rcbs h psm n
  | connectCreditBasedRsp id acc result => exact pendingInv_l2caConnectCreditBasedRsp h id acc result

/-- **The bounds hold on every reachable link.** -/
theorem pendingInv_reachable (rcbs : List Rcb) {freeCids : List Nat} {l : Lcb}
    (h : (leLink rcbs).Reachable (Lcb.initial freeCids) l) : PendingInv l :=
  h.invariant (pendingInv_initial freeCids) fun _ e hs _ => pendingInv_leExec rcbs hs e

/-- A peer's well-formed request for one channel, on a link with two free CCBs: the channel
waits for the upper layer's answer. -/
theorem pendingInv_reachable_request :
    let rcbs : List Rcb := [⟨0x0080, true, true, false⟩]
    let l := leExec rcbs (Lcb.initial [0x40, 0x41])
      (.sigCmd [0x17, 1, 10, 0, 0x80, 0, 100, 0, 64, 0, 1, 0, 0x40, 0])
    (leLink rcbs).Reachable (Lcb.initial [0x40, 0x41]) l ∧ l.pendingEcocConnCnt = 1 ∧
      PendingInv l := by
  intro rcbs l
  have run : (leLink rcbs).Reachable (Lcb.initial [0x40, 0x41]) l :=
    ⟨[.sigCmd [0x17, 1, 10, 0, 0x80, 0, 100, 0, 64, 0, 1, 0, 0x40, 0]], .single trivial⟩
  exact ⟨run, by decide, pendingInv_reachable rcbs run⟩

/-! ## §3 — a pending count refuses every request

Nothing in the request paths lowers a positive count: the peer's enhanced request meets
the collision branch, and ours is refused before it allocates. Only a Command Reject, a
response to one of our requests or the upper layer's answer clears it. -/

/-- An enhanced credit-based connection request: a signalling packet with that command
code, or `L2CA_ConnectCreditBasedReq`. -/
def LeEvent.IsCreditBasedConnReq : LeEvent → Prop
  | .sigCmd pkt => pkt.head? = some l2capCmdCreditBasedConnReq
  | .connectCreditBasedReq _ _ => True
  | .connectCreditBasedRsp _ _ _ => False

/-- `L2CA_ConnectCreditBasedReq` allocates nothing and returns no CID while a request is
pending. -/
theorem l2caConnectCreditBasedReq_of_pending_pos (rcbs : List Rcb) {l : Lcb}
    (hpos : 0 < l.pendingEcocConnCnt) (psm n : Nat) :
    l2caConnectCreditBasedReq rcbs l psm n = (l, []) := by
  unfold l2caConnectCreditBasedReq
  split
  · rfl
  · rw [if_pos hpos]

/-- The dispatch sends a packet with the enhanced request's code to its branch, or drops
it. -/
theorem l2cbleProcessSigCmd_of_connReq (rcbs : List Rcb) (l : Lcb) {pkt : List UInt8}
    (h : pkt.head? = some l2capCmdCreditBasedConnReq) :
    l2cbleProcessSigCmd rcbs l pkt = l ∨
      ∃ id p, l2cbleProcessSigCmd rcbs l pkt = processCreditBasedConnReq rcbs l id p := by
  rcases pkt with _ | ⟨c, _ | ⟨id, p⟩⟩
  · cases h
  · exact .inl rfl
  · obtain rfl : c = l2capCmdCreditBasedConnReq := Option.some.inj h
    unfold l2cbleProcessSigCmd
    dsimp only
    split_ifs <;> first
      | exact .inl rfl
      | exact .inr ⟨_, _, rfl⟩
      | simp_all [l2capCmdReject, l2capCmdBleCreditBasedConnReq, l2capCmdCreditBasedConnReq]

/-- **One step.** While a request is pending, an enhanced connection request leaves the
bookkeeping and the link's CCBs as they were. -/
theorem leExec_of_pending_pos (rcbs : List Rcb) {l : Lcb} {e : LeEvent}
    (he : e.IsCreditBasedConnReq) (hpos : 0 < l.pendingEcocConnCnt) :
    (leExec rcbs l e).pending = l.pending ∧ (leExec rcbs l e).ccbs = l.ccbs := by
  cases e with
  | sigCmd pkt =>
    -- the collision check fails, since the count is positive
    have hnp : ∀ p, ¬ PassesCollisionCheck rcbs l p := fun _ hp => by
      have := hp.2.2.2
      omega
    rcases l2cbleProcessSigCmd_of_connReq rcbs l he with h | ⟨id, p, h⟩
    · simp only [leExec, h, and_self]
    · simp only [leExec, h]
      exact processCreditBasedConnReq_of_not_passes (hnp p) id
  | connectCreditBasedReq psm n =>
    simp [leExec, l2caConnectCreditBasedReq_of_pending_pos rcbs hpos]
  | connectCreditBasedRsp => exact he.elim

/-- **Every run of connection requests.** From a link with a request pending, any sequence
of enhanced connection requests, the peer's or ours, in any order, keeps the request
pending and creates no channel. -/
theorem connectionRequests_keep_pending (rcbs : List Rcb) {l l' : Lcb} {es : List LeEvent}
    (hrun : (leLink rcbs).Run l es l') (hes : ∀ e ∈ es, e.IsCreditBasedConnReq)
    (hpos : 0 < l.pendingEcocConnCnt) : l'.pending = l.pending ∧ l'.ccbs = l.ccbs := by
  induction hrun with
  | nil => exact ⟨rfl, rfl⟩
  | @cons s t e es _ _ ih =>
    obtain ⟨hp, hc⟩ := leExec_of_pending_pos rcbs (hes e (List.mem_cons_self ..)) hpos
    have hpos' : 0 < (leExec rcbs s e).pendingEcocConnCnt := by
      rw [(Lcb.pending_eq_iff.mp hp).1]
      exact hpos
    obtain ⟨hp', hc'⟩ := ih (fun e' he' => hes e' (List.mem_cons_of_mem _ he')) hpos'
    exact ⟨hp'.trans hp, hc'.trans hc⟩

/-- A peer's request for one channel of a registered PSM, refused for its MTU below
`L2CAP_CREDIT_BASED_MIN_MTU`, leaves a count of one; the next well-formed request is
refused as a collision, and `L2CA_ConnectCreditBasedReq` allocates nothing. With no free
CCB, a peer's LE CoC request has the null CCB dereferenced. -/
theorem l2cbleProcessSigCmd_collision_after_rejected_request :
    ∃ l, (leLink [⟨0x0080, true, true, false⟩]).Run (Lcb.initial [0x40, 0x41])
        [.sigCmd [0x17, 1, 10, 0, 0x80, 0, 23, 0, 64, 0, 1, 0, 0x40, 0],
         .sigCmd [0x17, 2, 10, 0, 0x80, 0, 100, 0, 64, 0, 1, 0, 0x41, 0]] l ∧
      l.out = [.creditBasedConnRes 1 l2capLeResultInvalidParameters [0],
               .creditBasedConnRes 2 l2capLeResultNoResources [0]] ∧
      l.pendingEcocConnCnt = 1 ∧ l.ccbs = [] ∧
      (l2caConnectCreditBasedReq [⟨0x0080, true, true, false⟩] l 0x0080 1).2 = [] ∧
      (leExec [⟨0x0080, true, true, false⟩] (Lcb.initial [])
        (.sigCmd [0x14, 3, 10, 0, 0x80, 0, 0x40, 0, 100, 0, 100, 0, 1, 0])).out = [.nullDeref] :=
  ⟨_, .cons trivial (.cons trivial (.nil _)), by decide, by decide, by decide, by decide,
    by decide⟩

end L2cap
