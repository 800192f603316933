import Fluoride.Gatt.Sr

/-!
# GATT server — what a Read By Type response holds

For every database, request and payload size of at least 2, a Read By Type response
the server sends is its opcode, a length byte, and entries of that one length, each a
handle at or after the requested start handle followed by its value; the whole response
fits in the payload (`gattsProcessReadByTypeReq_srMsg`). The invariant `RspInv` of the
response buffer carries this through both loops.

The requested end handle bounds nothing: `gatts_db_read_attr_value_by_type` does not read
it, and `gattsProcessReadByTypeReq_lists_past_end` is a response of the server that
lists a handle past it.
-/

namespace Gatt

/-! ## One read -/

theorem getShortestRepresentationSize_cases (u : Uuid) :
    u.getShortestRepresentationSize = 2 ∨ u.getShortestRepresentationSize = 4 ∨
      u.getShortestRepresentationSize = 16 := by
  unfold Uuid.getShortestRepresentationSize
  split_ifs <;> simp

theorem length_gattBuildUuidToStream_le (u : Uuid) :
    (gattBuildUuidToStream u).length ≤ (gattBuildUuidToStreamLen u).toNat ∧
      (gattBuildUuidToStreamLen u).toNat ≤ 16 := by
  unfold gattBuildUuidToStream gattBuildUuidToStreamLen Uuid.to128BitLE
  rcases getShortestRepresentationSize_cases u with h | h | h <;>
    split_ifs <;> simp_all [u.length_uu]

/-- **A value read** is at most `*p_len` bytes, `*p_len` is within the room `mtu` the
caller gave, and no value of the server's declarations is longer than 19 bytes. -/
theorem readAttrValue_success {attr16 valAttr : Attr} {readLong : Bool} {mtu pLen : UInt16}
    {secFlag : SecFlag} {keySize : UInt8}
    (h : (readAttrValue attr16 valAttr readLong mtu pLen secFlag keySize).status = .success) :
    (readAttrValue attr16 valAttr readLong mtu pLen secFlag keySize).bytes.length ≤
        (readAttrValue attr16 valAttr readLong mtu pLen secFlag keySize).pLen.toNat ∧
      (readAttrValue attr16 valAttr readLong mtu pLen secFlag keySize).pLen ≤ mtu ∧
      (readAttrValue attr16 valAttr readLong mtu pLen secFlag keySize).pLen.toNat ≤ 19 := by
  have huuid := length_gattBuildUuidToStream_le (attr16.pValue.getD {}).uuid
  unfold readAttrValue at h ⊢
  generalize gattsCheckAttrReadability attr16 readLong secFlag keySize = s at h ⊢
  dsimp only at h ⊢
  split_ifs at h ⊢ <;> simp_all [UInt16.not_lt, Uuid.to128BitLE, Uuid.length_uu]
  -- a service declaration: its UUID takes at most 16 bytes
  omega

/-! ## The response buffer -/

/-- A response entry: a handle, then the value bytes. -/
def entryBytes (e : UInt16 × List UInt8) : List UInt8 := uint16ToStream e.1 ++ e.2

/-- **The response buffer's invariant**, for a request starting at `sHdl` on a link with
`payloadSize` bytes of payload, `room` of them still free. -/
structure RspInv (sHdl payloadSize : UInt16) (rsp : RspMsg) (room : UInt16) : Prop where
  /-- The data is a run of entries at or after the start handle, all `offset` long. -/
  entries : ∃ es : List (UInt16 × List UInt8), rsp.data = es.flatMap entryBytes ∧
    ∀ e ∈ es, sHdl ≤ e.1 ∧ e.2.length + 2 = rsp.offset.toNat ∧ e.2.length ≤ 19
  /-- `p_rsp->len` counts the two header bytes and the data. -/
  len : rsp.len.toNat = 2 + rsp.data.length
  /-- What is used and what is left make up the payload. -/
  fits : rsp.len.toNat + room.toNat = payloadSize.toNat

theorem RspInv.initial (sHdl payloadSize : UInt16) (hpay : 2 ≤ payloadSize.toNat) :
    RspInv sHdl payloadSize ⟨0, 2, []⟩ (payloadSize - 2) := by
  refine ⟨⟨[], rfl, by simp⟩, rfl, ?_⟩
  have h2 : (2 : UInt16) ≤ payloadSize := UInt16.le_iff_toNat_le.mpr hpay
  show 2 + (payloadSize - 2).toNat = payloadSize.toNat
  rw [UInt16.toNat_sub_of_le _ _ h2]
  simp only [UInt16.reduceToNat]
  omega

/-- **Adding an entry.** A value of `L ≤ 19` bytes for a handle at or after the start,
with room for it and the format the buffer already has, keeps the invariant. -/
theorem RspInv.push {sHdl payloadSize room : UInt16} {rsp : RspMsg}
    (hinv : RspInv sHdl payloadSize rsp room) {h L : UInt16} {bytes : List UInt8}
    (hh : sHdl ≤ h) (hb : bytes.length ≤ L.toNat) (hL : L.toNat ≤ 19)
    (hroom : L.toNat + 2 ≤ room.toNat) (hoff : rsp.offset = 0 ∨ rsp.offset = L + 2) :
    RspInv sHdl payloadSize
      ⟨L + 2, rsp.len + (L + 2),
        rsp.data ++ uint16ToStream h ++ bytes ++ List.replicate (L.toNat - bytes.length) 0⟩
      (room - (L + 2)) := by
  obtain ⟨⟨es, hdata, hes⟩, hlen, hfits⟩ := hinv
  have hL2 : (L + 2).toNat = L.toNat + 2 := by
    rw [UInt16.toNat_add]
    simp only [UInt16.reduceToNat]
    omega
  have hpay := payloadSize.toNat_lt
  refine ⟨⟨es ++ [(h, bytes ++ List.replicate (L.toNat - bytes.length) 0)], ?_, ?_⟩, ?_, ?_⟩
  · simp [hdata, entryBytes, List.flatMap_append]
  · intro e he
    rcases List.mem_append.mp he with he | he
    · -- an old entry: the buffer had this format already
      obtain ⟨h₁, h₂, h₃⟩ := hes e he
      refine ⟨h₁, ?_, h₃⟩
      rcases hoff with h0 | hoff
      · rw [h0] at h₂
        simp at h₂
      · rwa [hoff] at h₂
    · -- the new entry is padded to `L` bytes
      obtain rfl := List.mem_singleton.mp he
      refine ⟨hh, ?_, ?_⟩ <;> simp only [List.length_append, List.length_replicate, hL2] <;> omega
  · rw [UInt16.toNat_add, hL2, hlen]
    simp only [List.length_append, length_uint16ToStream, List.length_replicate]
    omega
  · rw [UInt16.toNat_add, hL2, UInt16.toNat_sub_of_le _ _ (UInt16.le_iff_toNat_le.mpr (by omega)),
      hL2]
    omega

/-- **The attribute loop keeps the invariant.** Induction on the attribute list: an
attribute read successfully is an `RspInv.push`, and every other branch stops with the
buffer as it was. -/
theorem rspInv_readAttrValueByTypeLoop {sHdl payloadSize : UInt16} {type : Uuid}
    {secFlag : SecFlag} {keySize : UInt8} {noPendingCmd : Bool} :
    ∀ (attrs : List Attr) (st : ByTypeState), RspInv sHdl payloadSize st.rsp st.pLen →
      RspInv sHdl payloadSize
        (readAttrValueByTypeLoop sHdl type secFlag keySize noPendingCmd attrs st).rsp
        (readAttrValueByTypeLoop sHdl type secFlag keySize noPendingCmd attrs st).pLen
  | [], _, h => h
  | attr :: rest, st, h => by
    simp only [readAttrValueByTypeLoop]
    generalize hr : readAttrValue attr (rest.headD Attr.zero) false (st.pLen - 2) st.len
      secFlag keySize = r
    by_cases hm : attr.handle ≥ sHdl ∧ type = attr.uuid
    swap
    · rw [if_neg hm]
      exact rspInv_readAttrValueByTypeLoop rest st h
    rw [if_pos hm]
    by_cases hroom : st.pLen ≤ 2
    · rw [if_pos hroom]
      exact h
    rw [if_neg hroom]
    by_cases hpend : r.status = .pending
    · -- handed to the application: the buffer is left as it is
      rw [if_pos hpend]
      generalize gattsSendAppReadRequest noPendingCmd attr.handle attr.gattType = ps
      obtain ⟨status, sent⟩ := ps
      exact h
    rw [if_neg hpend]
    by_cases hsucc : r.status = .success
    swap
    · rw [if_neg hsucc]
      exact h
    rw [if_pos hsucc]
    obtain ⟨hb, hmtu, h19⟩ := readAttrValue_success (hr ▸ hsucc)
    rw [hr] at hb hmtu h19
    -- the read was given `p_len - 2` bytes of room, and `p_len > 2`
    have hroom' : r.pLen.toNat + 2 ≤ st.pLen.toNat := by
      have h2 : 2 < st.pLen.toNat := by
        simpa [UInt16.le_iff_toNat_le] using hroom
      have hle := UInt16.le_iff_toNat_le.mp hmtu
      rw [UInt16.toNat_sub_of_le _ _ (UInt16.le_iff_toNat_le.mpr (by simp; omega))] at hle
      simp only [UInt16.reduceToNat] at hle
      omega
    by_cases hfmt : (if st.rsp.offset = 0 then r.pLen + 2 else st.rsp.offset) = r.pLen + 2
    · -- the entry has the buffer's format: it is added
      rw [if_pos hfmt]
      apply rspInv_readAttrValueByTypeLoop rest
      rw [hfmt]
      refine h.push hm.1 hb h19 hroom' ?_
      by_cases h0 : st.rsp.offset = 0
      · exact .inl h0
      · rw [if_neg h0] at hfmt
        exact .inr hfmt
    · -- "format mismatch": the buffer keeps its format and its entries
      rw [if_neg hfmt]
      have h0 : st.rsp.offset ≠ 0 := fun h0 => hfmt (by rw [if_pos h0])
      simp only [if_neg h0]
      exact h

/-- **The service loop keeps the invariant.** Every service is read from the request's
start handle, which the loop changes only where it stops. -/
theorem rspInv_readByTypeServices {eHdl payloadSize : UInt16} {uuid : Uuid}
    {secFlag : SecFlag} {keySize : UInt8} {noPendingCmd : Bool} :
    ∀ (srvs : List SrvListElem) (st : ReadByTypeState),
      RspInv st.sHdl payloadSize st.rsp st.bufLen →
      RspInv st.sHdl payloadSize
        (readByTypeServices eHdl uuid secFlag keySize noPendingCmd srvs st).rsp
        (readByTypeServices eHdl uuid secFlag keySize noPendingCmd srvs st).bufLen
  | [], _, h => h
  | el :: rest, st, h => by
    simp only [readByTypeServices]
    by_cases hov : el.sHdl ≤ eHdl ∧ el.eHdl ≥ st.sHdl
    swap
    · rw [if_neg hov]
      exact rspInv_readByTypeServices rest st h
    rw [if_pos hov]
    generalize hr : gattsDbReadAttrValueByType el.pDb st.rsp st.sHdl uuid st.bufLen secFlag keySize
      st.errHdl noPendingCmd = r
    have hdb : RspInv st.sHdl payloadSize r.rsp r.pLen := by
      rw [← hr]
      exact rspInv_readAttrValueByTypeLoop _ _ h
    by_cases hstop : r.status ≠ .success ∧ r.status ≠ .notFound
    · rw [if_pos hstop]
      exact hdb
    · rw [if_neg hstop]
      exact rspInv_readByTypeServices rest ⟨_, r.rsp, r.pLen, r.curHandle, st.sHdl, _⟩ hdb

/-! ## What else the loops send -/

/-- `gatts_send_app_read_request` sends nothing but a read request to the application. -/
theorem gattsSendAppReadRequest_sent (noPendingCmd : Bool) (handle : UInt16)
    (gattType : GattType) :
    ∀ x ∈ (gattsSendAppReadRequest noPendingCmd handle gattType).2, ∃ h, x = .appReadReq h := by
  unfold gattsSendAppReadRequest
  split
  · cases gattType <;> simp
  · simp

/-- The attribute loop sends nothing but read requests to the application. -/
theorem readAttrValueByTypeLoop_sent {sHdl : UInt16} {type : Uuid} {secFlag : SecFlag}
    {keySize : UInt8} {noPendingCmd : Bool} :
    ∀ (attrs : List Attr) (st : ByTypeState), (∀ x ∈ st.sent, ∃ h, x = .appReadReq h) →
      ∀ x ∈ (readAttrValueByTypeLoop sHdl type secFlag keySize noPendingCmd attrs st).sent,
        ∃ h, x = .appReadReq h
  | [], _, h => h
  | attr :: rest, st, h => by
    simp only [readAttrValueByTypeLoop]
    split_ifs
    · exact h
    · -- the one branch that sends: a read request handed to the application
      have happ := gattsSendAppReadRequest_sent noPendingCmd attr.handle attr.gattType
      generalize gattsSendAppReadRequest noPendingCmd attr.handle attr.gattType = ps at happ ⊢
      obtain ⟨status, sent⟩ := ps
      intro x hx
      rcases List.mem_append.mp hx with hx | hx
      · exact h x hx
      · exact happ x hx
    all_goals first
      | exact readAttrValueByTypeLoop_sent rest _ h
      | exact h

/-- The service loop sends nothing but read requests to the application. -/
theorem readByTypeServices_sent {eHdl : UInt16} {uuid : Uuid} {secFlag : SecFlag}
    {keySize : UInt8} {noPendingCmd : Bool} :
    ∀ (srvs : List SrvListElem) (st : ReadByTypeState), (∀ x ∈ st.sent, ∃ h, x = .appReadReq h) →
      ∀ x ∈ (readByTypeServices eHdl uuid secFlag keySize noPendingCmd srvs st).sent,
        ∃ h, x = .appReadReq h
  | [], _, h => h
  | el :: rest, st, h => by
    simp only [readByTypeServices]
    by_cases hov : el.sHdl ≤ eHdl ∧ el.eHdl ≥ st.sHdl
    swap
    · rw [if_neg hov]
      exact readByTypeServices_sent rest st h
    rw [if_pos hov]
    generalize hr : gattsDbReadAttrValueByType el.pDb st.rsp st.sHdl uuid st.bufLen secFlag keySize
      st.errHdl noPendingCmd = r
    have hsent : ∀ x ∈ st.sent ++ r.sent, ∃ h, x = .appReadReq h := by
      intro x hx
      rcases List.mem_append.mp hx with hx | hx
      · exact h x hx
      · rw [← hr] at hx
        exact readAttrValueByTypeLoop_sent _ _ (by simp) x hx
    by_cases hstop : r.status ≠ .success ∧ r.status ≠ .notFound
    · rw [if_pos hstop]
      exact hsent
    · rw [if_neg hstop]
      exact readByTypeServices_sent rest ⟨_, r.rsp, r.pLen, r.curHandle, st.sHdl, _⟩ hsent

/-! ## The response -/

/-- `read_handles` accepts a request whose start handle is its first two bytes. -/
theorem readHandles_sHdl {p : List UInt8} :
    (readHandles p).1 = .success → (readHandles p).2.1 = streamToUint16 p := by
  unfold readHandles
  dsimp only
  split_ifs <;> simp

/-- `gatts_validate_packet_format` returns the start handle `read_handles` read, and
accepts only what `read_handles` accepted. -/
theorem gattsValidatePacketFormat_readHandles (opCode : UInt8) (p : List UInt8) :
    (gattsValidatePacketFormat opCode p).2.2.1 = (readHandles p).2.1 ∧
      ((gattsValidatePacketFormat opCode p).1 = .success → (readHandles p).1 = .success) := by
  unfold gattsValidatePacketFormat
  generalize readHandles p = rh
  obtain ⟨ret, s, e⟩ := rh
  dsimp only
  split_ifs <;> simp_all

/-- **Read By Type responses are well formed.** For every database, request and payload
size of at least 2, a response the server sends is the opcode, a length byte, and entries
all of the announced length, each a handle at or after the requested start handle
followed by its value; and it fits in the payload. -/
theorem gattsProcessReadByTypeReq_srMsg {srvList : List SrvListElem} {payloadSize : UInt16}
    {secFlag : SecFlag} {keySize : UInt8} {noPendingCmd : Bool} {opCode : UInt8}
    {p pdu : List UInt8} (hpay : 2 ≤ payloadSize.toNat)
    (h : Sent.srMsg pdu ∈
      gattsProcessReadByTypeReq srvList payloadSize secFlag keySize noPendingCmd opCode p) :
    pdu.length ≤ payloadSize.toNat ∧
      ∃ (len : UInt8) (es : List (UInt16 × List UInt8)),
        pdu = [opCode + 1, len] ++ es.flatMap entryBytes ∧
        ∀ e ∈ es, streamToUint16 p ≤ e.1 ∧ e.2.length + 2 = len.toNat := by
  obtain ⟨hs, hacc⟩ := gattsValidatePacketFormat_readHandles opCode p
  unfold gattsProcessReadByTypeReq at h
  generalize hv : gattsValidatePacketFormat opCode p = v at h hs hacc
  obtain ⟨reason, uuid, sHdl, eHdl⟩ := v
  dsimp only at h hs hacc
  by_cases hreason : reason = .success
  swap
  · rw [if_pos hreason] at h
    simp at h
  rw [if_neg (not_not.mpr hreason)] at h
  have hs' : sHdl = streamToUint16 p := hs.trans (readHandles_sHdl (hacc hreason))
  subst hs'
  have hpay0 : payloadSize ≠ 0 := fun h0 => by simp [h0] at hpay
  rw [if_neg hpay0] at h
  -- the service loop, from the empty buffer
  generalize hst : readByTypeServices eHdl uuid secFlag keySize noPendingCmd srvList
    ⟨.notFound, ⟨0, 2, []⟩, payloadSize - 2, 0, streamToUint16 p, []⟩ = st at h
  have hinv : RspInv (streamToUint16 p) payloadSize st.rsp st.bufLen := by
    rw [← hst]
    exact rspInv_readByTypeServices srvList
      ⟨.notFound, ⟨0, 2, []⟩, payloadSize - 2, 0, streamToUint16 p, []⟩
      (RspInv.initial _ payloadSize hpay)
  have hsent : ∀ x ∈ st.sent, ∃ h, x = .appReadReq h := by
    rw [← hst]
    exact readByTypeServices_sent srvList
      ⟨.notFound, ⟨0, 2, []⟩, payloadSize - 2, 0, streamToUint16 p, []⟩ (by simp)
  -- the one response sent is the buffer
  have hpdu : pdu = [opCode + 1, st.rsp.offset.toUInt8] ++ st.rsp.data := by
    have hnot : Sent.srMsg pdu ∉ st.sent := fun hm => by
      obtain ⟨_, hx⟩ := hsent _ hm
      cases hx
    by_cases hr : st.reason ≠ .success
    · rw [if_pos hr] at h
      rcases List.mem_append.mp h with hm | hm
      · exact absurd hm hnot
      · split at hm <;> simp at hm
    · rw [if_neg hr] at h
      rcases List.mem_append.mp h with hm | hm
      · exact absurd hm hnot
      · simpa using hm
  obtain ⟨⟨es, hdata, hes⟩, hlen, hfits⟩ := hinv
  refine ⟨?_, st.rsp.offset.toUInt8, es, by rw [hpdu, hdata], fun e he => ?_⟩
  · rw [hpdu, List.length_append]
    simp only [List.length_cons, List.length_nil]
    omega
  · obtain ⟨h₁, h₂, h₃⟩ := hes e he
    refine ⟨h₁, ?_⟩
    -- an entry is at most 21 bytes, so the length byte holds its length
    rw [UInt16.toNat_toUInt8]
    omega

/-- A service on handles 1-5 as the builders lay it out: its declaration at 1,
characteristic declarations at 2 and 4, their values at 3 and 5. Asked for the
characteristic declarations (type `0x2803`) in `[1, 3]`, the server's one response lists
the declarations at handles 2 and 4. -/
theorem gattsProcessReadByTypeReq_lists_past_end :
    ∃ db, (do
        let db ← gattsInitServiceDb (Uuid.from16Bit 0x180F) true 1 5
        let db ← gattsAddCharacteristic db gattPermRead 0x02 (Uuid.from16Bit 0x2A19)
        gattsAddCharacteristic db gattPermRead 0x02 (Uuid.from16Bit 0x2A1A)) = some db ∧
      gattsProcessReadByTypeReq [⟨1, 5, db⟩] 23 ⟨false, false, false, false⟩ 16 true
          gattReqReadByType [0x01, 0x00, 0x03, 0x00, 0x03, 0x28] =
        [.srMsg [0x09, 7, 0x02, 0x00, 0x02, 0x03, 0x00, 0x19, 0x2A,
                          0x04, 0x00, 0x02, 0x05, 0x00, 0x1A, 0x2A]] :=
  ⟨_, rfl, by decide⟩

end Gatt
