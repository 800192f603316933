import Fluoride.L2cap.FcrLemmas

/-!
# L2CAP ERTM — segmentation and reassembly of SDUs (`l2c_fcr.cc`)

`do_sar_reassembly` rebuilds SDUs from the I-frames that arrive in sequence. An unsegmented
frame is an SDU; a start frame announces the SDU's length in its first two bytes and opens a
pending SDU, continuation frames add to it and an end frame completes it. A frame that does
not fit makes it return `false`, and the caller then disconnects the channel.
`l2c_fcr_get_next_xmit_sdu_seg` cuts an SDU of the transmit hold queue into such frames of at
most `tx_mps` bytes.

Results: the pending SDU never holds more than its announced length, nor that length more than
the MTU (`sarInv_doSarReassembly`); a run of frames from an idle receiver delivers one SDU and
ends idle exactly when it is that SDU's frames (`sarRun_sduFrames_iff`); and the frames the
sender cuts an SDU into are delivered by the receiver as that SDU (`sendsFrames_sdu`).
-/

namespace L2cap

/-! ## One frame -/

/-- The SDU being reassembled is within its announced length, and that length within the
MTU. -/
def SarInv (c : Ccb) : Prop :=
  ∀ acc, c.fcrb.pRxSdu = some acc → acc.length ≤ c.fcrb.rxSduLen ∧ c.fcrb.rxSduLen ≤ c.maxRxMtu

/-! `do_sar_reassembly` by the frame's SAR bits and whether an SDU is pending. -/

/-- A frame in the wrong state: an unsegmented or start frame while an SDU is pending, a
continuation or end frame while none is. -/
theorem doSarReassembly_of_misplaced {c : Ccb} {f : IFrame}
    (misplaced : (f.sar = .unsegSdu ∨ f.sar = .startSdu) ∧ c.fcrb.pRxSdu.isSome ∨
      (f.sar = .contSdu ∨ f.sar = .endSdu) ∧ c.fcrb.pRxSdu = none) :
    doSarReassembly c f = (c, false) := by
  obtain ⟨txSeq, reqSeq, fBit, sar, payload⟩ := f
  rcases misplaced with ⟨kind, pending⟩ | ⟨kind, idle⟩
  · obtain ⟨acc, pending⟩ := Option.isSome_iff_exists.1 pending
    rcases kind with kind | kind <;> simp_all [doSarReassembly]
  · rcases kind with kind | kind <;> simp_all [doSarReassembly]

theorem doSarReassembly_of_unseg {c : Ccb} {f : IFrame} (idle : c.fcrb.pRxSdu = none)
    (unseg : f.sar = .unsegSdu) :
    doSarReassembly c f = ({ c with out := c.out ++ [.sduUp f.payload] }, true) := by
  simp [doSarReassembly, idle, unseg]

/-- A start frame on an idle receiver: the length check, the MTU check (after the length is
stored) and the check of the data against the length (after the empty SDU is opened). -/
theorem doSarReassembly_start {c : Ccb} {f : IFrame} (idle : c.fcrb.pRxSdu = none)
    (start : f.sar = .startSdu) :
    doSarReassembly c f =
      if f.payload.length < 2 then (c, false)
      else if c.maxRxMtu < readLe16 f.payload then
        ({ c with fcrb.rxSduLen := readLe16 f.payload }, false)
      else if readLe16 f.payload < f.payload.length - 2 then
        ({ c with fcrb.rxSduLen := readLe16 f.payload, fcrb.pRxSdu := some [] }, false)
      else
        ({ c with fcrb.rxSduLen := readLe16 f.payload,
                  fcrb.pRxSdu := some (f.payload.drop 2) }, true) := by
  simp only [doSarReassembly, idle, start]
  split_ifs <;> simp_all

theorem doSarReassembly_cont {c : Ccb} {f : IFrame} {acc : List UInt8}
    (pending : c.fcrb.pRxSdu = some acc) (cont : f.sar = .contSdu) :
    doSarReassembly c f =
      if c.fcrb.rxSduLen < acc.length + f.payload.length then (c, false)
      else ({ c with fcrb.pRxSdu := some (acc ++ f.payload) }, true) := by
  simp [doSarReassembly, pending, cont]

theorem doSarReassembly_end {c : Ccb} {f : IFrame} {acc : List UInt8}
    (pending : c.fcrb.pRxSdu = some acc) (last : f.sar = .endSdu) :
    doSarReassembly c f =
      if acc.length + f.payload.length = c.fcrb.rxSduLen then
        ({ c with fcrb.pRxSdu := none, out := c.out ++ [.sduUp (acc ++ f.payload)] }, true)
      else (c, false) := by
  simp only [doSarReassembly, pending, last]
  split_ifs <;> simp_all

/-- **What an accepted frame does.** An unsegmented frame on an idle receiver is delivered; a
start frame opens a pending SDU of the length it announces; a continuation frame adds to the
pending SDU; an end frame that completes it delivers it. -/
theorem doSarReassembly_accepted {c c' : Ccb} {f : IFrame}
    (h : doSarReassembly c f = (c', true)) :
    (c.fcrb.pRxSdu = none ∧ f.sar = .unsegSdu ∧
        c' = { c with out := c.out ++ [.sduUp f.payload] }) ∨
      (c.fcrb.pRxSdu = none ∧ f.sar = .startSdu ∧ 2 ≤ f.payload.length ∧
        readLe16 f.payload ≤ c.maxRxMtu ∧ (f.payload.drop 2).length ≤ readLe16 f.payload ∧
        c' = { c with fcrb.rxSduLen := readLe16 f.payload,
                      fcrb.pRxSdu := some (f.payload.drop 2) }) ∨
      (∃ acc, c.fcrb.pRxSdu = some acc ∧ f.sar = .contSdu ∧
        acc.length + f.payload.length ≤ c.fcrb.rxSduLen ∧
        c' = { c with fcrb.pRxSdu := some (acc ++ f.payload) }) ∨
      (∃ acc, c.fcrb.pRxSdu = some acc ∧ f.sar = .endSdu ∧
        acc.length + f.payload.length = c.fcrb.rxSduLen ∧
        c' = { c with fcrb.pRxSdu := none, out := c.out ++ [.sduUp (acc ++ f.payload)] }) := by
  cases kind : f.sar <;> cases pending : c.fcrb.pRxSdu
  case unsegSdu.none =>
    rw [doSarReassembly_of_unseg pending kind, Prod.mk.injEq] at h
    exact .inl ⟨rfl, rfl, h.1.symm⟩
  case startSdu.none =>
    rw [doSarReassembly_start pending kind] at h
    split_ifs at h with short mtu overrun
    · simp at h
    · simp at h
    · simp at h
    -- the start frame's length check, `len < L2CAP_SDU_LEN_OVERHEAD`, is left as `1 < len`
    refine .inr (.inl ⟨rfl, rfl, by omega, by omega, ?_, (Prod.mk.inj h).1.symm⟩)
    rw [List.length_drop]
    omega
  case contSdu.some acc =>
    rw [doSarReassembly_cont pending kind] at h
    split_ifs at h with exceeds
    · simp at h
    exact .inr (.inr (.inl ⟨acc, rfl, rfl, by omega, (Prod.mk.inj h).1.symm⟩))
  case endSdu.some acc =>
    rw [doSarReassembly_end pending kind] at h
    split_ifs at h with total
    · exact .inr (.inr (.inr ⟨acc, rfl, rfl, total, (Prod.mk.inj h).1.symm⟩))
    · simp at h
  all_goals
    rw [doSarReassembly_of_misplaced (by simp [pending, kind])] at h
    simp at h

/-- **What a rejected frame does.** Nothing is delivered. The pending SDU is left as it was,
or there is none, or (a start frame whose data overruns the length it announces) it is the
empty SDU just opened for a length within the MTU. -/
theorem doSarReassembly_rejected {c c' : Ccb} {f : IFrame}
    (h : doSarReassembly c f = (c', false)) :
    c'.out = c.out ∧ c'.maxRxMtu = c.maxRxMtu ∧
      ((c'.fcrb.pRxSdu = c.fcrb.pRxSdu ∧ c'.fcrb.rxSduLen = c.fcrb.rxSduLen) ∨
        c'.fcrb.pRxSdu = none ∨ (c'.fcrb.pRxSdu = some [] ∧ c'.fcrb.rxSduLen ≤ c.maxRxMtu)) := by
  -- most rejections hand the channel back as it was
  have unchanged : ∀ {c' pRxSdu}, c.fcrb.pRxSdu = pRxSdu → (c, false) = (c', false) →
      c'.out = c.out ∧ c'.maxRxMtu = c.maxRxMtu ∧
        ((c'.fcrb.pRxSdu = pRxSdu ∧ c'.fcrb.rxSduLen = c.fcrb.rxSduLen) ∨
          c'.fcrb.pRxSdu = none ∨ (c'.fcrb.pRxSdu = some [] ∧ c'.fcrb.rxSduLen ≤ c.maxRxMtu)) := by
    rintro c' pRxSdu pending ⟨⟩
    exact ⟨rfl, rfl, .inl ⟨pending, rfl⟩⟩
  cases kind : f.sar <;> cases pending : c.fcrb.pRxSdu
  case unsegSdu.none =>
    rw [doSarReassembly_of_unseg pending kind] at h
    simp at h
  case startSdu.none =>
    rw [doSarReassembly_start pending kind] at h
    split_ifs at h with short mtu overrun
    · exact unchanged pending h
    · -- the MTU check fails after the length is stored
      obtain ⟨rfl, -⟩ := Prod.mk.inj h
      exact ⟨rfl, rfl, .inr (.inl pending)⟩
    · -- the data overruns the length after the empty SDU is opened
      obtain ⟨rfl, -⟩ := Prod.mk.inj h
      exact ⟨rfl, rfl, .inr (.inr ⟨rfl, Nat.not_lt.1 mtu⟩)⟩
    · simp at h
  case contSdu.some acc =>
    rw [doSarReassembly_cont pending kind] at h
    split_ifs at h
    · exact unchanged pending h
    · simp at h
  case endSdu.some acc =>
    rw [doSarReassembly_end pending kind] at h
    split_ifs at h
    · simp at h
    · exact unchanged pending h
  all_goals
    rw [doSarReassembly_of_misplaced (by simp [pending, kind])] at h
    exact unchanged pending h

/-! The accepted frames, read the other way. -/

theorem doSarReassembly_of_start {c : Ccb} {f : IFrame} (idle : c.fcrb.pRxSdu = none)
    (start : f.sar = .startSdu) (two : 2 ≤ f.payload.length) (mtu : readLe16 f.payload ≤ c.maxRxMtu)
    (fits : (f.payload.drop 2).length ≤ readLe16 f.payload) :
    doSarReassembly c f = ({ c with fcrb.rxSduLen := readLe16 f.payload,
                                    fcrb.pRxSdu := some (f.payload.drop 2) }, true) := by
  rw [List.length_drop] at fits
  rw [doSarReassembly_start idle start, if_neg (by omega), if_neg (Nat.not_lt.2 mtu),
    if_neg (Nat.not_lt.2 fits)]

theorem doSarReassembly_of_cont {c : Ccb} {f : IFrame} {acc : List UInt8}
    (pending : c.fcrb.pRxSdu = some acc) (cont : f.sar = .contSdu)
    (fits : acc.length + f.payload.length ≤ c.fcrb.rxSduLen) :
    doSarReassembly c f = ({ c with fcrb.pRxSdu := some (acc ++ f.payload) }, true) := by
  rw [doSarReassembly_cont pending cont, if_neg (Nat.not_lt.2 fits)]

theorem doSarReassembly_of_end {c : Ccb} {f : IFrame} {acc : List UInt8}
    (pending : c.fcrb.pRxSdu = some acc) (last : f.sar = .endSdu)
    (total : acc.length + f.payload.length = c.fcrb.rxSduLen) :
    doSarReassembly c f =
      ({ c with fcrb.pRxSdu := none, out := c.out ++ [.sduUp (acc ++ f.payload)] }, true) := by
  rw [doSarReassembly_end pending last, if_pos total]

theorem sarInv_of_idle {c : Ccb} (idle : c.fcrb.pRxSdu = none) : SarInv c := by
  intro acc pending
  rw [idle] at pending
  cases pending

/-- **The pending SDU stays within bounds**, whatever frame arrives. -/
theorem sarInv_doSarReassembly {c : Ccb} (inv : SarInv c) (f : IFrame) :
    SarInv (doSarReassembly c f).1 := by
  rcases hr : doSarReassembly c f with ⟨c', ok⟩
  cases ok with
  | true =>
    rcases doSarReassembly_accepted hr with
      ⟨-, -, rfl⟩ | ⟨-, -, -, mtu, fits, rfl⟩ | ⟨acc, pending, -, fits, rfl⟩ | ⟨acc, -, -, -, rfl⟩
    · exact inv
    · -- the start frame opens the SDU with the bytes after the length
      rintro acc' ⟨⟩
      exact ⟨fits, mtu⟩
    · rintro acc' ⟨⟩
      rw [List.length_append]
      exact ⟨fits, (inv acc pending).2⟩
    · exact sarInv_of_idle rfl
  | false =>
    obtain ⟨-, mtu, ⟨same, sameLen⟩ | idle | ⟨opened, len⟩⟩ := doSarReassembly_rejected hr
    · intro acc pending
      rw [same] at pending
      rw [sameLen, mtu]
      exact inv acc pending
    · exact sarInv_of_idle idle
    · intro acc pending
      rw [opened] at pending
      cases pending
      rw [mtu]
      exact ⟨Nat.zero_le _, len⟩

/-! ## Runs of frames -/

/-- The frames of one SDU that follow its start frame: continuation frames, then an end
frame; with the bytes they carry. -/
inductive SegTail : List IFrame → List UInt8 → Prop
  | last {f : IFrame} : f.sar = .endSdu → SegTail [f] f.payload
  | cont {f : IFrame} {fs : List IFrame} {data : List UInt8} :
      f.sar = .contSdu → SegTail fs data → SegTail (f :: fs) (f.payload ++ data)

/-- The frames of one SDU for a receiver of MTU `mtu`: an unsegmented frame; or a start frame
announcing a length within the MTU, then continuation frames and an end frame, the bytes after
the length and those of the later frames totalling exactly the announced length. -/
inductive SduFrames (mtu : Nat) : List IFrame → List UInt8 → Prop
  | unseg {f : IFrame} : f.sar = .unsegSdu → SduFrames mtu [f] f.payload
  | seg {s : IFrame} {fs : List IFrame} {data : List UInt8} :
      s.sar = .startSdu → 2 ≤ s.payload.length → readLe16 s.payload ≤ mtu → SegTail fs data →
      (s.payload.drop 2 ++ data).length = readLe16 s.payload →
      SduFrames mtu (s :: fs) (s.payload.drop 2 ++ data)

/-- In-sequence frames given to `do_sar_reassembly` one after another until one is rejected,
where the caller disconnects: the receiver after the last frame, or `none`. -/
def sarRun (c : Ccb) : List IFrame → Option Ccb
  | [] => some c
  | f :: fs =>
    match doSarReassembly c f with
    | (c', true) => sarRun c' fs
    | (_, false) => none

theorem sarRun_cons_of_accepted {c c' : Ccb} {f : IFrame}
    (h : doSarReassembly c f = (c', true)) (fs : List IFrame) :
    sarRun c (f :: fs) = sarRun c' fs := by
  rw [sarRun, h]

theorem sarRun_cons_eq_some {c c'' : Ccb} {f : IFrame} {fs : List IFrame}
    (h : sarRun c (f :: fs) = some c'') :
    ∃ c', doSarReassembly c f = (c', true) ∧ sarRun c' fs = some c'' := by
  rcases hr : doSarReassembly c f with ⟨c', ok⟩
  cases ok with
  | true =>
    rw [sarRun_cons_of_accepted hr] at h
    exact ⟨c', rfl, h⟩
  | false =>
    rw [sarRun, hr] at h
    cases h

/-- A run only adds to the output. -/
theorem sarRun_out {c c' : Ccb} {fs : List IFrame} (h : sarRun c fs = some c') :
    c.out <+: c'.out := by
  induction fs generalizing c with
  | nil =>
    cases h
    exact List.prefix_refl _
  | cons f fs ih =>
    obtain ⟨c1, step, rest⟩ := sarRun_cons_eq_some h
    obtain ⟨os, out, -⟩ := doSarReassembly_out c f
    have grows : c1.out = c.out ++ os := by rw [← out, step]
    exact (List.prefix_append c.out os).trans (grows ▸ ih rest)

/-- A run whose output is no longer than before added nothing to it. -/
theorem sarRun_out_eq {c c' : Ccb} {fs : List IFrame} (h : sarRun c fs = some c')
    (len : c'.out.length ≤ c.out.length) : c'.out = c.out :=
  ((sarRun_out h).eq_of_length (le_antisymm (sarRun_out h).length_le len)).symm

/-- A receiver with a pending SDU becomes idle only by delivering. -/
theorem sarRun_pending_delivers {c c' : Ccb} {acc : List UInt8} {fs : List IFrame}
    (pending : c.fcrb.pRxSdu = some acc) (h : sarRun c fs = some c')
    (idle : c'.fcrb.pRxSdu = none) : c.out.length < c'.out.length := by
  induction fs generalizing c acc with
  | nil =>
    cases h
    rw [pending] at idle
    cases idle
  | cons f fs ih =>
    obtain ⟨c1, step, rest⟩ := sarRun_cons_eq_some h
    rcases doSarReassembly_accepted step with
      ⟨idle', -⟩ | ⟨idle', -⟩ | ⟨acc', -, -, -, hc1⟩ | ⟨acc', -, -, -, rfl⟩
    · rw [pending] at idle'
      cases idle'
    · rw [pending] at idle'
      cases idle'
    · -- a continuation frame keeps the SDU pending
      have pending1 : c1.fcrb.pRxSdu = some (acc' ++ f.payload) := by rw [hc1]
      have delivers := ih pending1 rest
      rwa [hc1] at delivers
    · -- the end frame delivers, and the rest of the run keeps what it delivered
      have kept := (sarRun_out rest).length_le
      rw [List.length_append, List.length_singleton] at kept
      omega

/-- An idle receiver that ends the run idle, having delivered nothing, was given no frame. -/
theorem sarRun_idle_silent {c c' : Ccb} {fs : List IFrame} (idle : c.fcrb.pRxSdu = none)
    (h : sarRun c fs = some c') (idle' : c'.fcrb.pRxSdu = none) (silent : c'.out = c.out) :
    fs = [] := by
  cases fs with
  | nil => rfl
  | cons f fs =>
    exfalso
    obtain ⟨c1, step, rest⟩ := sarRun_cons_eq_some h
    rcases doSarReassembly_accepted step with
      ⟨-, -, rfl⟩ | ⟨-, -, -, -, -, rfl⟩ | ⟨acc, pending, -⟩ | ⟨acc, pending, -⟩
    · -- an unsegmented frame delivers
      have kept := (sarRun_out rest).length_le
      rw [silent, List.length_append, List.length_singleton] at kept
      omega
    · -- a start frame leaves an SDU pending, which only a delivery completes
      have delivers := sarRun_pending_delivers rfl rest idle'
      rw [silent] at delivers
      exact lt_irrefl _ delivers
    · rw [idle] at pending
      cases pending
    · rw [idle] at pending
      cases pending

/-- The frames after a start frame that complete the pending SDU, delivering it and nothing
else, are continuation frames and an end frame totalling the announced length. -/
theorem segTail_of_sarRun {c c' : Ccb} {acc sdu : List UInt8} {fs : List IFrame}
    (pending : c.fcrb.pRxSdu = some acc) (h : sarRun c fs = some c')
    (idle : c'.fcrb.pRxSdu = none) (delivered : c'.out = c.out ++ [.sduUp sdu]) :
    ∃ data, SegTail fs data ∧ sdu = acc ++ data ∧ (acc ++ data).length = c.fcrb.rxSduLen := by
  induction fs generalizing c acc with
  | nil =>
    cases h
    rw [pending] at idle
    cases idle
  | cons f fs ih =>
    obtain ⟨c1, step, rest⟩ := sarRun_cons_eq_some h
    rcases doSarReassembly_accepted step with
      ⟨idle', -⟩ | ⟨idle', -⟩ | ⟨acc', pending', cont, -, hc1⟩ |
        ⟨acc', pending', last, total, rfl⟩
    · rw [pending] at idle'
      cases idle'
    · rw [pending] at idle'
      cases idle'
    · rw [pending] at pending'
      cases pending'
      have pending1 : c1.fcrb.pRxSdu = some (acc ++ f.payload) := by rw [hc1]
      have sameOut : c1.out = c.out := by rw [hc1]
      have sameLen : c1.fcrb.rxSduLen = c.fcrb.rxSduLen := by rw [hc1]
      obtain ⟨data, tail, rfl, total⟩ := ih pending1 rest (sameOut ▸ delivered)
      rw [sameLen] at total
      exact ⟨f.payload ++ data, .cont cont tail, by rw [List.append_assoc],
        by rw [← List.append_assoc]; exact total⟩
    · rw [pending] at pending'
      cases pending'
      -- the end frame delivered the SDU, so the rest of the run delivered nothing
      have silent := sarRun_out_eq rest (by simp [delivered])
      have empty := sarRun_idle_silent rfl rest idle silent
      subst empty
      rw [delivered] at silent
      have same : sdu = acc ++ f.payload := by simpa using silent
      exact ⟨f.payload, .last last, same, by rw [List.length_append]; exact total⟩

/-- The frames of an SDU after its start frame complete a pending SDU of the announced
length and deliver it. -/
theorem sarRun_of_segTail {fs : List IFrame} {data : List UInt8} (tail : SegTail fs data) :
    ∀ {c : Ccb} {acc : List UInt8}, c.fcrb.pRxSdu = some acc →
      (acc ++ data).length = c.fcrb.rxSduLen →
      ∃ c', sarRun c fs = some c' ∧ c'.fcrb.pRxSdu = none ∧
        c'.out = c.out ++ [.sduUp (acc ++ data)] := by
  induction tail with
  | @last f last =>
    intro c acc pending total
    have step := doSarReassembly_of_end pending last (by rw [← List.length_append]; exact total)
    exact ⟨_, by rw [sarRun_cons_of_accepted step]; rfl, rfl, rfl⟩
  | @cont f fs data cont _ ih =>
    intro c acc pending total
    have fits : acc.length + f.payload.length ≤ c.fcrb.rxSduLen := by
      rw [← total, ← List.append_assoc, List.length_append, List.length_append]
      omega
    have step := doSarReassembly_of_cont pending cont fits
    obtain ⟨c', run, idle, delivered⟩ :=
      ih (c := { c with fcrb.pRxSdu := some (acc ++ f.payload) }) rfl
        (by rw [List.append_assoc]; exact total)
    rw [List.append_assoc] at delivered
    exact ⟨c', by rw [sarRun_cons_of_accepted step]; exact run, idle, delivered⟩

/-- **Reassembly delivers exactly the SDUs' frames.** From an idle receiver, a run of frames is
accepted, delivers one SDU and nothing else and leaves the receiver idle exactly when it is
that SDU's frames. -/
theorem sarRun_sduFrames_iff {c : Ccb} (idle : c.fcrb.pRxSdu = none) (fs : List IFrame)
    (sdu : List UInt8) :
    (∃ c', sarRun c fs = some c' ∧ c'.fcrb.pRxSdu = none ∧ c'.out = c.out ++ [.sduUp sdu]) ↔
      SduFrames c.maxRxMtu fs sdu := by
  constructor
  · rintro ⟨c', h, idle', delivered⟩
    cases fs with
    | nil =>
      cases h
      simp at delivered
    | cons f fs =>
      obtain ⟨c1, step, rest⟩ := sarRun_cons_eq_some h
      rcases doSarReassembly_accepted step with
        ⟨-, unseg, rfl⟩ | ⟨-, start, two, mtu, -, rfl⟩ | ⟨acc, pending, -⟩ | ⟨acc, pending, -⟩
      · -- the unsegmented frame delivered the SDU, so the rest of the run delivered nothing
        have silent := sarRun_out_eq rest (by simp [delivered])
        have empty := sarRun_idle_silent (c := { c with out := c.out ++ [.sduUp f.payload] }) idle rest idle' silent
        subst empty
        rw [delivered] at silent
        have same : sdu = f.payload := by simpa using silent
        rw [same]
        exact .unseg unseg
      · obtain ⟨data, tail, rfl, total⟩ := segTail_of_sarRun rfl rest idle' delivered
        exact .seg start two mtu tail total
      · rw [idle] at pending
        cases pending
      · rw [idle] at pending
        cases pending
  · intro frames
    cases frames with
    | @unseg f unseg =>
      have step := doSarReassembly_of_unseg idle unseg
      exact ⟨{ c with out := c.out ++ [.sduUp f.payload] },
        by rw [sarRun_cons_of_accepted step]; rfl, idle, rfl⟩
    | @seg s fs data start two mtu tail total =>
      have fits : (s.payload.drop 2).length ≤ readLe16 s.payload := by
        rw [← total, List.length_append]
        omega
      have step := doSarReassembly_of_start idle start two mtu fits
      obtain ⟨c', run, idle', delivered⟩ := sarRun_of_segTail tail
        (c := { c with fcrb.rxSduLen := readLe16 s.payload,
                       fcrb.pRxSdu := some (s.payload.drop 2) }) rfl total
      exact ⟨c', by rw [sarRun_cons_of_accepted step]; exact run, idle', delivered⟩

/-! ## Segmentation -/

/-- A new frame keeps the SAR bits and the bytes it is given; the queues and the MPS are
left as they were. -/
theorem xmitNewFrame_spec (c : Ccb) (sar : Sar) (payload : List UInt8) :
    ∃ c1 f, xmitNewFrame c sar payload true = (c1, some f) ∧ f.sar = sar ∧ f.payload = payload ∧
      c1.xmitHoldQ = c.xmitHoldQ ∧ c1.fcrb.retransQ = c.fcrb.retransQ ∧ c1.txMps = c.txMps :=
  ⟨_, _, rfl, rfl, rfl, rfl, rfl, rfl⟩

/-- **The next segment of the first SDU.** With nothing to retransmit, an SDU longer than
the MPS gives a start frame (after the SDU length) or a continuation frame with its first
`tx_mps` bytes and stays queued with the rest; a shorter one leaves the queue as an
unsegmented or an end frame. -/
theorem l2cFcrGetNextXmitSduSeg_of_holdQ {c : Ccb} {sdu : Sdu} {rest : List Sdu}
    (retrans : c.fcrb.retransQ = []) (hold : c.xmitHoldQ = sdu :: rest) :
    ∃ c1 f, l2cFcrGetNextXmitSduSeg c true true = (c1, some f) ∧ c1.fcrb.retransQ = [] ∧
      c1.txMps = c.txMps ∧
      (c.txMps < sdu.data.length →
        c1.xmitHoldQ = ⟨sdu.data.drop c.txMps, true⟩ :: rest ∧
        f.sar = (if sdu.segStarted then .contSdu else .startSdu) ∧
        f.payload = (if sdu.segStarted then [] else le16 sdu.data.length) ++
          sdu.data.take c.txMps) ∧
      (sdu.data.length ≤ c.txMps →
        c1.xmitHoldQ = rest ∧ f.sar = (if sdu.segStarted then .endSdu else .unsegSdu) ∧
        f.payload = sdu.data) := by
  unfold l2cFcrGetNextXmitSduSeg
  rw [retrans, hold]
  dsimp only
  by_cases long : c.txMps < sdu.data.length
  · rw [if_pos long, if_pos rfl]
    cases started : sdu.segStarted
    · obtain ⟨c1, f, sent, sar, payload, held, retrans', mps⟩ := xmitNewFrame_spec _ .startSdu
        (le16 sdu.data.length ++ sdu.data.take c.txMps)
      rw [if_neg Bool.false_ne_true, sent]
      refine ⟨c1, f, rfl, retrans'.trans retrans, mps, fun _ => ⟨held, sar, payload⟩,
        fun short => absurd long (Nat.not_lt.mpr short)⟩
    · obtain ⟨c1, f, sent, sar, payload, held, retrans', mps⟩ := xmitNewFrame_spec _ .contSdu
        (sdu.data.take c.txMps)
      rw [if_pos rfl, sent]
      refine ⟨c1, f, rfl, retrans'.trans retrans, mps, fun _ => ⟨held, sar, payload⟩,
        fun short => absurd long (Nat.not_lt.mpr short)⟩
  · rw [if_neg long]
    obtain ⟨c1, f, sent, sar, payload, held, retrans', mps⟩ := xmitNewFrame_spec _
      (if sdu.segStarted then .endSdu else .unsegSdu) sdu.data
    rw [sent]
    exact ⟨c1, f, rfl, retrans'.trans retrans, mps, fun short => absurd short long,
      fun _ => ⟨held, sar, payload⟩⟩

/-- Successive calls of `l2c_fcr_get_next_xmit_sdu_seg` that return the frames `fs`, from `c`
to `c'`; both buffer clones succeed (`osi_malloc` asserts rather than fail). -/
inductive SendsFrames : Ccb → List IFrame → Ccb → Prop
  | nil (c : Ccb) : SendsFrames c [] c
  | cons {c c1 c' : Ccb} {f : IFrame} {fs : List IFrame} :
      l2cFcrGetNextXmitSduSeg c true true = (c1, some f) → SendsFrames c1 fs c' →
      SendsFrames c (f :: fs) c'

/-- The rest of an SDU whose segmentation has started goes out as continuation frames and an
end frame of at most `tx_mps` bytes each, which carry its bytes in order. -/
theorem sendsFrames_segTail {c : Ccb} {d : List UInt8} {rest : List Sdu}
    (retrans : c.fcrb.retransQ = []) (hold : c.xmitHoldQ = ⟨d, true⟩ :: rest)
    (mps : 0 < c.txMps) :
    ∃ fs c', SendsFrames c fs c' ∧ c'.xmitHoldQ = rest ∧ SegTail fs d ∧
      ∀ f ∈ fs, f.payload.length ≤ c.txMps := by
  obtain ⟨c1, f, sent, retrans1, mps1, segment, whole⟩ :=
    l2cFcrGetNextXmitSduSeg_of_holdQ retrans hold
  by_cases long : c.txMps < d.length
  · -- a continuation frame of `tx_mps` bytes, and the rest after it
    obtain ⟨held, sar, payload⟩ := segment long
    have shorter : (d.drop c.txMps).length < d.length := by
      rw [List.length_drop]
      omega
    obtain ⟨fs, c', sends, held', tail, small⟩ :=
      sendsFrames_segTail retrans1 held (mps1 ▸ mps)
    refine ⟨f :: fs, c', .cons sent sends, held', ?_, ?_⟩
    · have cont : f.sar = .contSdu := by rw [sar]; rfl
      have bytes : f.payload ++ d.drop c.txMps = d := by
        rw [payload, if_pos rfl, List.nil_append, List.take_append_drop]
      exact bytes ▸ SegTail.cont cont tail
    · intro g mem
      rcases List.mem_cons.1 mem with rfl | mem'
      · rw [payload, if_pos rfl, List.nil_append, List.length_take]
        exact Nat.min_le_left _ _
      · exact mps1 ▸ small g mem'
  · -- the end frame with what is left
    obtain ⟨held, sar, payload⟩ := whole (Nat.not_lt.mp long)
    have last : f.sar = .endSdu := by rw [sar]; rfl
    have bytes : f.payload = d := payload
    refine ⟨[f], c1, .cons sent (.nil c1), held, bytes ▸ SegTail.last last, ?_⟩
    intro g mem
    rw [List.mem_singleton.1 mem, payload]
    exact Nat.not_lt.mp long
termination_by d.length

/-- The SAR bits of the frames after a start frame: continuation frames, then an end frame. -/
theorem sars_of_segTail {fs : List IFrame} {data : List UInt8} (tail : SegTail fs data) :
    ∃ n, fs.map (·.sar) = List.replicate n .contSdu ++ [.endSdu] := by
  induction tail with
  | last last => exact ⟨0, by rw [List.map_singleton, last]; rfl⟩
  | cont cont _ ih =>
    obtain ⟨n, sars⟩ := ih
    exact ⟨n + 1, by rw [List.map_cons, sars, cont]; rfl⟩

theorem sar_ne_startSdu_of_segTail {fs : List IFrame} {data : List UInt8}
    (tail : SegTail fs data) : ∀ g ∈ fs, g.sar ≠ .startSdu := by
  induction tail with
  | last last =>
    intro g mem
    rw [List.mem_singleton.1 mem, last]
    decide
  | cont cont _ ih =>
    intro g mem
    rcases List.mem_cons.1 mem with rfl | mem'
    · rw [cont]
      decide
    · exact ih g mem'

theorem readLe16_le16_append {v : Nat} (small : v < 65536) (rest : List UInt8) :
    readLe16 (le16 v ++ rest) = v := by
  simp only [le16, readLe16, List.cons_append, List.nil_append, UInt8.toNat_ofNat']
  omega

theorem length_le16 (v : Nat) : (le16 v).length = 2 := rfl

/-- **An SDU goes out as its frames.** With nothing to retransmit, the SDU at the head of the
transmit hold queue goes out, call after call, as one unsegmented frame when it fits the MPS,
and otherwise as a start frame carrying its length, continuation frames and an end frame;
each frame carries at most `tx_mps` bytes of the SDU, and together they are the SDU's frames
for every receiver whose MTU it fits. -/
theorem sendsFrames_sdu {c : Ccb} {data : List UInt8} {rest : List Sdu}
    (retrans : c.fcrb.retransQ = []) (hold : c.xmitHoldQ = ⟨data, false⟩ :: rest)
    (mps : 0 < c.txMps) :
    ∃ fs c', SendsFrames c fs c' ∧ c'.xmitHoldQ = rest ∧
      (data.length ≤ c.txMps → fs.map (·.sar) = [.unsegSdu]) ∧
      (c.txMps < data.length → ∃ n,
        fs.map (·.sar) = .startSdu :: List.replicate n .contSdu ++ [.endSdu] ∧
        fs.head?.map (·.payload.take 2) = some (le16 data.length)) ∧
      (∀ f ∈ fs, (if f.sar = .startSdu then f.payload.drop 2 else f.payload).length ≤ c.txMps) ∧
      ∀ mtu, data.length ≤ mtu → mtu < 65536 → SduFrames mtu fs data := by
  obtain ⟨c1, f, sent, retrans1, mps1, segment, whole⟩ :=
    l2cFcrGetNextXmitSduSeg_of_holdQ retrans hold
  by_cases long : c.txMps < data.length
  · -- a start frame, then the rest of the SDU
    obtain ⟨held, sar, payload⟩ := segment long
    have start : f.sar = .startSdu := by rw [sar]; rfl
    have bytes : f.payload = le16 data.length ++ data.take c.txMps := by rw [payload]; rfl
    have afterLength : f.payload.drop 2 = data.take c.txMps := by
      rw [bytes, List.drop_left' (length_le16 _)]
    obtain ⟨fs, c', sends, held', tail, small⟩ := sendsFrames_segTail retrans1 held (mps1 ▸ mps)
    obtain ⟨n, sars⟩ := sars_of_segTail tail
    refine ⟨f :: fs, c', .cons sent sends, held', fun short => absurd long (Nat.not_lt.mpr short),
      fun _ => ⟨n, ?_, ?_⟩, ?_, ?_⟩
    · rw [List.map_cons, start, sars]
      rfl
    · rw [List.head?_cons, Option.map_some, bytes, List.take_left' (length_le16 _)]
    · intro g mem
      rcases List.mem_cons.1 mem with rfl | mem'
      · rw [if_pos start, afterLength, List.length_take]
        exact Nat.min_le_left _ _
      · rw [if_neg (sar_ne_startSdu_of_segTail tail g mem')]
        exact mps1 ▸ small g mem'
    · intro mtu fits small
      have len : readLe16 f.payload = data.length := by
        rw [bytes]
        exact readLe16_le16_append (by omega) _
      have sdu : f.payload.drop 2 ++ data.drop c.txMps = data := by
        rw [afterLength, List.take_append_drop]
      have two : 2 ≤ f.payload.length := by
        rw [bytes, List.length_append, length_le16]
        omega
      have frames := SduFrames.seg start two (len ▸ fits) tail (by rw [sdu, len])
      rwa [sdu] at frames
  · -- one unsegmented frame
    obtain ⟨held, sar, payload⟩ := whole (Nat.not_lt.mp long)
    have unseg : f.sar = .unsegSdu := by rw [sar]; rfl
    have bytes : f.payload = data := payload
    refine ⟨[f], c1, .cons sent (.nil c1), held, fun _ => by rw [List.map_singleton, unseg],
      fun short => absurd short long, ?_, fun mtu _ _ => bytes ▸ SduFrames.unseg unseg⟩
    intro g mem
    rw [List.mem_singleton.1 mem, if_neg (by rw [unseg]; decide), bytes]
    exact Nat.not_lt.mp long

/-- Frames given one by one to `do_sar_reassembly`, whatever it returns. -/
def sarFold (c : Ccb) (fs : List IFrame) : Ccb :=
  fs.foldl (fun c f => (doSarReassembly c f).1) c

theorem sarInv_sarFold {c : Ccb} (inv : SarInv c) (fs : List IFrame) : SarInv (sarFold c fs) := by
  induction fs generalizing c with
  | nil => exact inv
  | cons f fs ih => exact ih (sarInv_doSarReassembly inv f)

theorem doSarReassembly_sdu_grammar :
    (∀ (c : Ccb) (fs : List IFrame), SarInv c → SarInv (sarFold c fs)) ∧
      (∀ (c : Ccb) (f : IFrame), (doSarReassembly c f).2 = false →
        (doSarReassembly c f).1.out = c.out) ∧
      ∀ c : Ccb, c.fcrb.pRxSdu = none → ∀ (fs : List IFrame) (sdu : List UInt8),
        (∃ c', sarRun c fs = some c' ∧ c'.fcrb.pRxSdu = none ∧
          c'.out = c.out ++ [.sduUp sdu]) ↔ SduFrames c.maxRxMtu fs sdu := by
  refine ⟨fun c fs inv => sarInv_sarFold inv fs, fun c f rejected => ?_,
    fun c idle fs sdu => sarRun_sduFrames_iff idle fs sdu⟩
  rcases hr : doSarReassembly c f with ⟨c', ok⟩
  rw [hr] at rejected
  cases rejected
  exact (doSarReassembly_rejected hr).1

theorem xmit_sdu_segments_reassemble :
    ∀ (c : Ccb) (data : List UInt8) (rest : List Sdu), c.fcrb.retransQ = [] →
      c.xmitHoldQ = ⟨data, false⟩ :: rest → 0 < c.txMps →
      ∃ fs c', SendsFrames c fs c' ∧ c'.xmitHoldQ = rest ∧
        (data.length ≤ c.txMps → fs.map (·.sar) = [.unsegSdu]) ∧
        (c.txMps < data.length → ∃ n,
          fs.map (·.sar) = .startSdu :: List.replicate n .contSdu ++ [.endSdu] ∧
          fs.head?.map (·.payload.take 2) = some (le16 data.length)) ∧
        (∀ f ∈ fs,
          (if f.sar = .startSdu then f.payload.drop 2 else f.payload).length ≤ c.txMps) ∧
        ∀ r : Ccb, r.fcrb.pRxSdu = none → data.length ≤ r.maxRxMtu → r.maxRxMtu < 65536 →
          ∃ r', sarRun r fs = some r' ∧ r'.fcrb.pRxSdu = none ∧ r'.out = r.out ++ [.sduUp data] := by
  intro c data rest retrans hold mps
  obtain ⟨fs, c', sends, held, unseg, seg, small, frames⟩ := sendsFrames_sdu retrans hold mps
  refine ⟨fs, c', sends, held, unseg, seg, small, fun r idle fits mtu => ?_⟩
  exact (sarRun_sduFrames_iff idle fs data).mpr (frames r.maxRxMtu fits mtu)

/-- A channel with a three-byte SDU queued and an MPS of two. -/
def segmentationExample : Ccb :=
  { fcrb := {}, chnlState := .open, localCid := 0x0040, ourTxWinSz := 10, peerTxWinSz := 10,
    peerMaxTransmit := 3, maxRxMtu := 672, txMps := 2, xmitHoldQ := [⟨[1, 2, 3], false⟩],
    out := [] }

theorem xmit_sdu_segments_reassemble_example :
    segmentationExample.fcrb.retransQ = [] ∧
      segmentationExample.xmitHoldQ = [⟨[1, 2, 3], false⟩] ∧ 0 < segmentationExample.txMps ∧
      ∃ fs c', SendsFrames segmentationExample fs c' ∧ c'.xmitHoldQ = [] := by
  refine ⟨rfl, rfl, by decide, ?_⟩
  obtain ⟨fs, c', sends, held, -⟩ :=
    xmit_sdu_segments_reassemble segmentationExample [1, 2, 3] [] rfl rfl (by decide)
  exact ⟨fs, c', sends, held⟩

end L2cap
