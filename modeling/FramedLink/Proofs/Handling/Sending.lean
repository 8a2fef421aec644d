import FramedLink.Endpoint.Basic
import FramedLink.Frame.Codec

/-!
# Sending

What reaches the channel when an endpoint sends: a sealed region is the encoding of its payload, an
attempt to send ends in one of three ways (`Attempt`), and what an end says about itself is sent as
the octets of a connect message.
-/

namespace FramedLink

namespace Outgoing

variable {out sealed : Outgoing} {type id : UInt8} {size : Nat} {mode : Integrity} {octets : Bytes}

theorem length_payloadOf (h : headerSize + size ≤ out.region.size) :
    (out.payloadOf size).length = size := by
  rw [payloadOf, Region.length_slice, Nat.min_eq_left h]
  omega

theorem size_of_sealFrame (h : out.sealFrame type id size mode = .ok (octets, sealed)) :
    sealed.region.size = out.region.size := by
  unfold sealFrame at h
  dsimp only at h
  split at h
  case isFalse => cases h
  case isTrue =>
    rw [Except.ok.injEq, Prod.mk.injEq] at h
    rw [← h.2, Region.size_overwrite, Region.size_overwrite]

/-- Where there is room, a region is sealed. -/
theorem exists_sealFrame (hmax : size ≤ maxPayload) (hroom : size ≤ out.payloadCapacity)
    (type id : UInt8) (mode : Integrity) :
    ∃ octets sealed, out.sealFrame type id size mode = .ok (octets, sealed) := by
  unfold sealFrame
  dsimp only
  rw [if_pos ⟨hmax, hroom⟩]
  exact ⟨_, _, rfl⟩

/-- Sealing encodes the frame of the payload, and keeps the payload. -/
theorem sealFrame_ok (hroom : frameOverhead ≤ out.region.size)
    (h : out.sealFrame type id size mode = .ok (octets, sealed)) :
    size ≤ maxPayload ∧ (out.payloadOf size).length = size ∧
      sealed.payloadOf size = out.payloadOf size ∧
      octets = (Frame.mk (.plain type id (UInt16.ofNat size)) (out.payloadOf size)).wire mode := by
  unfold sealFrame at h
  dsimp only at h
  split at h
  case isFalse => cases h
  case isTrue hsize =>
    have hend : headerSize + size + trailerSize ≤ out.region.size := by
      have hcapacity := hsize.2
      unfold payloadCapacity frameOverhead at hcapacity
      unfold frameOverhead at hroom
      omega
    let header := Header.plain type id (UInt16.ofNat size)
    let headed := out.region.overwrite 0 header.encode
    let trailer := LittleEndian.digits trailerSize
      (mode.trailer (headed.slice 0 (headerSize + size))).toNat
    have hheader : 0 + header.encode.length ≤ out.region.size := by
      rw [Header.length_encode]
      omega
    have htrailer : headerSize + size + trailer.length ≤ headed.size := by
      rw [Region.size_overwrite, LittleEndian.length_digits]
      exact hend
    have hkept : headed.slice headerSize (headerSize + size) = out.payloadOf size :=
      Region.slice_overwrite_behind (by rw [Header.length_encode]; omega) hheader
    have hbody : headed.slice 0 (headerSize + size) = header.encode ++ out.payloadOf size := by
      have hfront := Region.slice_overwrite_self hheader
      rw [Header.length_encode, Nat.zero_add] at hfront
      rw [← hkept, ← hfront]
      exact (Region.slice_append_slice _ (Nat.zero_le _) (Nat.le_add_right _ _)).symm
    have hwhole : (headed.overwrite (headerSize + size) trailer).slice 0
        (headerSize + size + trailerSize) = headed.slice 0 (headerSize + size) ++ trailer := by
      have happend := Region.slice_overwrite_append (Nat.zero_le (headerSize + size)) htrailer
      rw [LittleEndian.length_digits] at happend
      exact happend
    have hpayload : (headed.overwrite (headerSize + size) trailer).slice headerSize
        (headerSize + size) = out.payloadOf size := by
      rw [Region.slice_overwrite_before (Nat.le_refl _) htrailer, hkept]
    have hframe : headed.slice 0 (headerSize + size) ++ trailer =
        (Frame.mk header (out.payloadOf size)).wire mode := by
      simp only [trailer, hbody, Frame.wire, Frame.body]
      rfl
    rw [Except.ok.injEq, Prod.mk.injEq] at h
    obtain ⟨hoctets, rfl⟩ := h
    rw [hframe] at hwhole
    rw [hwhole] at hoctets
    dsimp only [payloadOf] at hpayload ⊢
    exact ⟨hsize.1, length_payloadOf (by omega), hpayload, hoctets.symm⟩

theorem writeBytes_of_fits (h : out.cursor + octets.length ≤ out.limit) :
    out.writeBytes octets =
      .ok ⟨out.region.overwrite out.cursor octets, out.cursor + octets.length⟩ := by
  rw [writeBytes, advance, if_pos h]
  rfl

theorem write_of_fits {field : Field} (hfield : field.encode = .ok octets)
    (h : out.cursor + octets.length ≤ out.limit) :
    out.write field =
      .ok ⟨out.region.overwrite out.cursor octets, out.cursor + octets.length⟩ := by
  rw [write, hfield]
  exact writeBytes_of_fits h

theorem writeAll_of_fits {fields : List Field} {chunks : List Bytes}
    (hfields : fields.map Field.encode = chunks.map .ok)
    (h : out.cursor + chunks.flatten.length ≤ out.limit) :
    ∃ region, out.writeAll fields = (.ok (), ⟨region, out.cursor + chunks.flatten.length⟩) ∧
      region.size = out.region.size ∧
      ∀ start ≤ out.cursor, region.slice start (out.cursor + chunks.flatten.length) =
        out.region.slice start out.cursor ++ chunks.flatten := by
  induction fields generalizing out chunks with
  | nil =>
    obtain rfl : chunks = [] := List.map_eq_nil_iff.mp hfields.symm
    exact ⟨out.region, rfl, rfl, fun start _ ↦ by simp⟩
  | cons field fields ih =>
    cases chunks with
    | nil => cases hfields
    | cons octets chunks =>
      rw [List.map_cons, List.map_cons, List.cons_eq_cons] at hfields
      rw [List.flatten_cons, List.length_append] at h ⊢
      have hfits : out.cursor + octets.length ≤ out.limit := by omega
      have hregion : out.cursor + octets.length ≤ out.region.size :=
        Nat.le_trans hfits (Nat.sub_le _ _)
      let next : Outgoing := ⟨out.region.overwrite out.cursor octets, out.cursor + octets.length⟩
      have hlimit : next.limit = out.limit := by
        rw [limit, limit, Region.size_overwrite]
      obtain ⟨region, hrest, hsize, hslice⟩ := @ih next chunks hfields.2
        (by rw [hlimit]; dsimp only [next]; omega)
      refine ⟨region, ?_, hsize.trans (Region.size_overwrite _ _ _), ?_⟩
      · rw [writeAll, write_of_fits hfields.1 hfits]
        dsimp only
        rw [hrest, Nat.add_assoc]
      · intro start hstart
        have hbehind := hslice start (Nat.le_trans hstart (Nat.le_add_right _ _))
        rw [Region.slice_overwrite_append hstart hregion, List.append_assoc] at hbehind
        rw [← Nat.add_assoc]
        exact hbehind

end Outgoing

theorem ConnectMessage.write_of_fits (message : ConnectMessage) {out : Outgoing}
    (h : out.cursor + ConnectMessage.size ≤ out.limit) :
    ∃ region, message.write out = (.ok (), ⟨region, out.cursor + ConnectMessage.size⟩) ∧
      region.size = out.region.size ∧
      region.slice out.cursor (out.cursor + ConnectMessage.size) = message.encode := by
  let chunks := [LittleEndian.digits 4 message.connId.toNat,
    LittleEndian.digits 2 message.limit.toNat, LittleEndian.digits 2 message.connType.toNat]
  have hfields : message.fields.map Field.encode = chunks.map .ok := rfl
  have hchunks : chunks.flatten = message.encode := by simp [chunks, encode]
  have hlength : message.encode.length = ConnectMessage.size := message.length_encode
  obtain ⟨region, hwrite, hsize, hslice⟩ :=
    Outgoing.writeAll_of_fits hfields (by rw [hchunks, hlength]; exact h)
  rw [hchunks, hlength] at hwrite hslice
  refine ⟨region, hwrite, hsize, ?_⟩
  calc
    region.slice out.cursor (out.cursor + ConnectMessage.size) =
        out.region.slice out.cursor out.cursor ++ message.encode := hslice _ (Nat.le_refl _)
    _ = message.encode := by
      rw [Region.slice_eq, List.drop_take, Nat.sub_self, List.take_zero, List.nil_append]

namespace Endpoint

variable {ω : Type} {env : Environment ω} {e : Endpoint ω} {w : ω}

/-- How an attempt to send can end: nothing reaches the channel; the channel does not take all of
the frame; or the frame is sent and noted. -/
inductive Attempt (env : Environment ω) (type id : UInt8) (size : Nat) (e : Endpoint ω) (w : ω) :
    Except EndpointError Unit × Endpoint ω × ω → Prop where
  | refused (error : EndpointError) :
      Attempt env type id size e w (.error error, e.rewindOutgoing, w)
  | cut (frame : Bytes) (sealed : Outgoing) (error : EndpointError)
      (hsealed : e.outgoing.sealFrame type id size e.config.integrity = .ok (frame, sealed))
      (hcut : ∀ taken, (env.channel.write frame w).1 = .ok taken → taken < frame.length) :
      Attempt env type id size e w
        (.error error, { e with outgoing := sealed.reset }, (env.channel.write frame w).2)
  | sent (frame : Bytes) (sealed : Outgoing) (hallowed : e.refusedLimit? size = none)
      (hsealed : e.outgoing.sealFrame type id size e.config.integrity = .ok (frame, sealed)) :
      Attempt env type id size e w
        (.ok (), { e with
            outgoing := sealed.reset
            counters := { e.counters with framesSent := e.counters.framesSent + 1 } },
          env.note (.sent type id (sealed.payloadOf size)) (env.channel.write frame w).2)

theorem attempt_send (type id : UInt8) (size : Nat) :
    Attempt env type id size e w (e.send env type id size w) := by
  unfold send
  cases hallowed : e.refusedLimit? size with
  | some limit => exact .refused _
  | none =>
    cases hsealed : e.outgoing.sealFrame type id size e.config.integrity with
    | error error => exact .refused _
    | ok result =>
      obtain ⟨frame, sealed⟩ := result
      dsimp only
      rcases hwrite : env.channel.write frame w with ⟨error | taken, w'⟩
      · have hcut : ∀ taken, (env.channel.write frame w).1 = .ok taken → taken < frame.length := by
          intro taken htaken
          rw [hwrite] at htaken
          cases htaken
        have hattempt := Attempt.cut frame sealed (.channel error) hsealed hcut
        rw [hwrite] at hattempt
        exact hattempt
      · dsimp only
        split
        case isTrue hshort =>
          have hcut : ∀ taken, (env.channel.write frame w).1 = .ok taken →
              taken < frame.length := by
            intro taken htaken
            rw [hwrite] at htaken
            cases htaken
            exact hshort
          have hattempt := Attempt.cut frame sealed
            (.channel (.shortWrite taken frame.length)) hsealed hcut
          rw [hwrite] at hattempt
          exact hattempt
        case isFalse =>
          have hattempt := @Attempt.sent ω env type id size e w frame sealed hallowed hsealed
          rw [hwrite] at hattempt
          exact hattempt

/-- Sending has no part in the link, and the region keeps its size. -/
theorem link_send (type id : UInt8) (size : Nat) :
    (e.send env type id size w).2.1.link = e.link ∧
      (e.send env type id size w).2.1.outgoing.region.size = e.outgoing.region.size := by
  have h : Attempt env type id size e w (e.send env type id size w) := attempt_send type id size
  generalize e.send env type id size w = result at h ⊢
  cases h with
  | refused error => exact ⟨rfl, rfl⟩
  | cut frame sealed error hsealed _ =>
    have hsize : sealed.region.size = e.outgoing.region.size := Outgoing.size_of_sealFrame hsealed
    exact ⟨rfl, hsize⟩
  | sent frame sealed _ hsealed =>
    have hsize : sealed.region.size = e.outgoing.region.size := Outgoing.size_of_sealFrame hsealed
    exact ⟨rfl, hsize⟩

/-- What an end says about itself is sent as the octets of its description, if there is room for
them between header and trailer. -/
theorem sendDescription_eq (type id : UInt8)
    (hroom : frameOverhead + ConnectMessage.size ≤ e.outgoing.region.size) :
    ∃ outgoing : Outgoing, outgoing.region.size = e.outgoing.region.size ∧
      outgoing.payloadOf ConnectMessage.size = e.description.encode ∧
      e.sendDescription env type id w =
        { e with outgoing }.send env type id ConnectMessage.size w := by
  have hfits : e.outgoing.reset.cursor + ConnectMessage.size ≤ e.outgoing.reset.limit := by
    unfold frameOverhead at hroom
    unfold Outgoing.reset Outgoing.limit
    dsimp only
    omega
  obtain ⟨region, hwrite, hsize, hslice⟩ := e.description.write_of_fits hfits
  refine ⟨⟨region, e.outgoing.reset.cursor + ConnectMessage.size⟩, hsize, hslice, ?_⟩
  unfold sendDescription
  rw [hwrite]
  rfl

end Endpoint

end FramedLink
