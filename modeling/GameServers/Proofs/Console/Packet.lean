import GameServers.Console.Packet
import GameServers.Proofs.Bytes
import GameServers.Proofs.Text.Utf8

namespace GameServers.Console

theorem PacketType.ofCode_eq_ok {value : Int32} {type : PacketType} :
    ofCode value = .ok type ↔ type.code = value ∧ type ≠ .exec := by
  unfold ofCode
  constructor
  · intro h
    split at h
    · next hv =>
      obtain rfl := Except.ok.inj h
      exact ⟨hv.symm, by decide⟩
    · split at h
      · next hv =>
        obtain rfl := Except.ok.inj h
        exact ⟨hv.symm, by decide⟩
      · split at h
        · next hv =>
          obtain rfl := Except.ok.inj h
          exact ⟨hv.symm, by decide⟩
        · cases h
  · rintro ⟨rfl, hne⟩
    cases type with
    | exec => exact absurd rfl hne
    | _ => rfl

namespace Packet

variable {frame : Bytes} {p : Packet}

/-- The bytes that are a frame: their size, type and end are right, and the body is text. -/
structure IsFrame (frame : Bytes) : Prop where
  length : 14 ≤ frame.length
  size : (field frame 0).toInt = frame.length - 4
  limit : (field frame 0).toInt ≤ 4096
  type : field frame 8 = 0 ∨ field frame 8 = 2 ∨ field frame 8 = 3
  terminators : frame.drop (frame.length - 2) = [0, 0]
  text : ∃ body, (frame.drop 12).take (frame.length - 14) = Text.toBytes body

/-- The checks one after another, and what each complains about. -/
theorem unpack_eq (frame : Bytes) : unpack frame =
    if frame.length < 14 then .error (.malformedPacket (.belowMinimum frame.length 14))
    else if maxSize < field frame 0 then
      .error (.malformedPacket (.aboveLimit (field frame 0) maxSize))
    else if field frame 0 < baseSize ∨ (field frame 0).toInt ≠ (frame.length : Int) - 4 then
      .error (.malformedPacket (.sizeMismatch (field frame 0) (frame.length - 4)))
    else match PacketType.ofCode (field frame 8) with
      | .error e => .error e
      | .ok type =>
        if frame.drop (frame.length - 2) ≠ [0, 0] then .error (.malformedPacket .terminators)
        else match Text.ofBytes? ((frame.drop 12).take (frame.length - 14)) with
          | .error fault => .error (.malformedBody fault)
          | .ok body => .ok { id := field frame 4, type, body } := by
  unfold unpack
  simp only [bind, Except.bind, throw, throwThe, MonadExceptOf.throw, pure, Except.pure]
  split
  · rfl
  · split
    · rfl
    · split
      · rfl
      · cases PacketType.ofCode (field frame 8) with
        | error e => rfl
        | ok type =>
          by_cases hend : frame.drop (frame.length - 2) ≠ [0, 0]
          · exact (if_pos hend).trans (if_pos hend).symm
          · exact (if_neg hend).trans (if_neg hend).symm

theorem unpack_eq_ok : unpack frame = .ok p ↔
    14 ≤ frame.length ∧ (field frame 0).toInt = frame.length - 4 ∧ (field frame 0).toInt ≤ 4096 ∧
      field frame 4 = p.id ∧ PacketType.ofCode (field frame 8) = .ok p.type ∧
      frame.drop (frame.length - 2) = [0, 0] ∧
      Text.ofBytes? ((frame.drop 12).take (frame.length - 14)) = .ok p.body := by
  have hmax : maxSize.toInt = 4096 := by decide
  have hbase : baseSize.toInt = 10 := by decide
  rw [unpack_eq]
  simp only [Int32.lt_iff_toInt_lt, hmax, hbase]
  constructor
  · intro h
    split at h
    · cases h
    · split at h
      · cases h
      · split at h
        · cases h
        · split at h
          · cases h
          · next type htype =>
            split at h
            · cases h
            · next hend =>
              split at h
              · cases h
              · next body hbody =>
                obtain rfl := Except.ok.inj h
                exact ⟨by omega, by omega, by omega, rfl, htype, not_not.1 hend, hbody⟩
  · rintro ⟨hlen, hsize, hlimit, hid, htype, hend, hbody⟩
    rw [if_neg (by omega), if_neg (by omega), if_neg (by omega), htype, hbody, hid]
    exact if_neg (not_not.2 hend)

theorem length_pack (p : Packet) : p.pack.length = p.body.utf8ByteSize + 14 := by
  simp only [pack, List.length_append, Bytes.length_ofInt32, Text.length_toBytes, List.length_cons,
    List.length_nil]
  omega

theorem pack_eq (p : Packet) : p.pack = Bytes.ofInt32 p.size ++ (Bytes.ofInt32 p.id ++
    (Bytes.ofInt32 p.type.code ++ (Text.toBytes p.body ++ [0, 0]))) := by
  simp only [pack, List.append_assoc]

theorem field_append (a : Bytes) (n : Int32) (c : Bytes) :
    field (a ++ (Bytes.ofInt32 n ++ c)) a.length = n := by
  have hn := Bytes.length_ofInt32 n
  rw [field, List.drop_left, ← hn, List.take_left, Bytes.toInt32_ofInt32]

theorem field_size (p : Packet) : field p.pack 0 = p.size := by
  rw [pack_eq]
  exact field_append [] p.size _

theorem field_id (p : Packet) : field p.pack 4 = p.id := by
  rw [pack_eq]
  exact field_append (Bytes.ofInt32 p.size) p.id _

theorem field_type (p : Packet) : field p.pack 8 = p.type.code := by
  rw [pack_eq, ← List.append_assoc]
  exact field_append (Bytes.ofInt32 p.size ++ Bytes.ofInt32 p.id) p.type.code _

theorem drop_pack (p : Packet) : p.pack.drop (p.pack.length - 2) = [0, 0] := by
  unfold pack
  rw [List.length_append]
  exact List.drop_left

theorem body_pack (p : Packet) : (p.pack.drop 12).take (p.pack.length - 14) = Text.toBytes p.body := by
  have hlen : (Bytes.ofInt32 p.size ++ Bytes.ofInt32 p.id ++ Bytes.ofInt32 p.type.code).length = 12 := by
    simp
  rw [length_pack, Nat.add_sub_cancel, ← Text.length_toBytes, pack, List.append_assoc, ← hlen,
    List.drop_left, List.take_left]

theorem toInt_size (h : p.body.utf8ByteSize + 10 < 2 ^ 31) :
    p.size.toInt = p.body.utf8ByteSize + 10 := by
  have hbase : baseSize.toInt = 10 := by decide
  have hlen : (Int32.ofNat p.body.utf8ByteSize).toInt = p.body.utf8ByteSize :=
    Int32.toInt_ofNat_of_lt (by omega)
  rw [size, Int32.toInt_add, hlen, hbase]
  exact Int.bmod_eq_of_le (by omega) (by omega)

theorem field_frame (h : 14 ≤ frame.length) :
    frame = Bytes.ofInt32 (field frame 0) ++ (Bytes.ofInt32 (field frame 4) ++
      (Bytes.ofInt32 (field frame 8) ++ ((frame.drop 12).take (frame.length - 14) ++
        frame.drop (frame.length - 2)))) := by
  have hf (k : Nat) (hk : k + 4 ≤ frame.length) (c : Bytes) (hc : frame.drop (k + 4) = c) :
      frame.drop k = Bytes.ofInt32 (field frame k) ++ c := by
    rw [field, Bytes.ofInt32_toInt32 (by simp; omega), ← hc, ← List.drop_drop, List.take_append_drop]
  have hbody : frame.drop 12 = (frame.drop 12).take (frame.length - 14) ++
      frame.drop (frame.length - 2) := by
    have hd : (frame.drop 12).drop (frame.length - 14) = frame.drop (frame.length - 2) := by
      rw [List.drop_drop]
      congr 1
      omega
    rw [← hd, List.take_append_drop]
  exact hf 0 (by omega) _ (hf 4 (by omega) _ (hf 8 (by omega) _ hbody))

def received (p : Packet) : Packet :=
  { p with type := if p.type = .exec then .authResponse else p.type }

theorem code_received (p : Packet) : p.received.type.code = p.type.code := by
  unfold received
  cases p.type <;> rfl

theorem type_received_ne_exec (p : Packet) : p.received.type ≠ .exec := by
  unfold received
  cases p.type <;> simp

theorem unpacks_iff : (∃ p, unpack frame = .ok p) ↔ IsFrame frame := by
  have hcodes : (0 : Int32) = PacketType.response.code ∧ (2 : Int32) = PacketType.authResponse.code ∧
      (3 : Int32) = PacketType.auth.code := by decide
  constructor
  · rintro ⟨p, h⟩
    obtain ⟨hlen, hsize, hlimit, -, htype, hend, hbody⟩ := unpack_eq_ok.1 h
    refine ⟨hlen, hsize, hlimit, ?_, hend, p.body, (Text.toBytes_of_ofBytes? hbody).symm⟩
    obtain ⟨hcode, hne⟩ := PacketType.ofCode_eq_ok.1 htype
    rw [← hcode]
    cases ht : p.type with
    | exec => exact absurd ht hne
    | response => exact .inl rfl
    | authResponse => exact .inr (.inl rfl)
    | auth => exact .inr (.inr rfl)
  · intro h
    obtain ⟨body, hbody⟩ := h.text
    have htext := Text.ofBytes?_toBytes body
    rw [← hbody] at htext
    have hunpack (type : PacketType) (hcode : type.code = field frame 8) (hne : type ≠ .exec) :
        unpack frame = .ok ⟨field frame 4, type, body⟩ :=
      unpack_eq_ok.2 ⟨h.length, h.size, h.limit, rfl, PacketType.ofCode_eq_ok.2 ⟨hcode, hne⟩,
        h.terminators, htext⟩
    rcases h.type with ht | ht | ht
    · exact ⟨_, hunpack .response ht.symm (by decide)⟩
    · exact ⟨_, hunpack .authResponse ht.symm (by decide)⟩
    · exact ⟨_, hunpack .auth ht.symm (by decide)⟩

theorem pack_of_unpack (h : unpack frame = .ok p) : p.pack = frame := by
  obtain ⟨hlen, hsize, hlimit, hid, htype, hend, hbody⟩ := unpack_eq_ok.1 h
  have hbytes := Text.toBytes_of_ofBytes? hbody
  have hcode := (PacketType.ofCode_eq_ok.1 htype).1
  have hlength : p.body.utf8ByteSize = frame.length - 14 := by
    rw [← Text.length_toBytes, hbytes, List.length_take, List.length_drop]
    omega
  have hp : p.size = field frame 0 := by
    apply Int32.toInt_inj.1
    rw [toInt_size (by omega), hsize]
    omega
  rw [field_frame hlen, pack_eq, hp, hcode, ← hid, hbytes, hend]

theorem unpack_pack_of_long (hlong : 4086 < p.body.utf8ByteSize)
    (hfits : p.body.utf8ByteSize + 10 < 2 ^ 31) :
    unpack p.pack = .error (.malformedPacket (.aboveLimit p.size maxSize)) := by
  have hlength := p.length_pack
  have hmax : maxSize.toInt = 4096 := by decide
  have hsize := toInt_size hfits
  rw [unpack_eq, field_size, if_neg (by omega), if_pos]
  rw [Int32.lt_iff_toInt_lt]
  omega

theorem unpack_pack (h : p.body.utf8ByteSize ≤ 4086) : unpack p.pack = .ok p.received := by
  have hlength := p.length_pack
  have hsize : p.size.toInt = p.body.utf8ByteSize + 10 := toInt_size (by omega)
  apply unpack_eq_ok.2
  rw [field_size, field_id, field_type, drop_pack, body_pack, hsize, hlength]
  refine ⟨by omega, by omega, by omega, rfl, ?_, rfl, Text.ofBytes?_toBytes p.body⟩
  exact PacketType.ofCode_eq_ok.2 ⟨p.code_received, p.type_received_ne_exec⟩

/-- Unpacking accepts exactly the frames, and packing gives back each frame that was unpacked. What
is packed is unpacked again, with the type as the other side reads it, unless it is too long. -/
theorem packets_are_frames :
    (∀ frame, (∃ p, unpack frame = .ok p) ↔ IsFrame frame) ∧
      (∀ frame p, unpack frame = .ok p → p.pack = frame) ∧
      (∀ p : Packet, p.body.utf8ByteSize ≤ 4086 → unpack p.pack = .ok p.received) ∧
      ∀ p : Packet, 4086 < p.body.utf8ByteSize → p.body.utf8ByteSize + 10 < 2 ^ 31 →
        ∃ defect, unpack p.pack = .error (.malformedPacket defect) :=
  ⟨fun _ ↦ unpacks_iff, fun _ _ ↦ pack_of_unpack, fun _ ↦ unpack_pack,
    fun _ hlong hfits ↦ ⟨_, unpack_pack_of_long hlong hfits⟩⟩

theorem odd_bodies_are_frames :
    let command : Packet := ⟨-1, .exec, "a\x00é"⟩
    let long : Packet := ⟨100, .response, String.ofList (List.replicate 4087 'x')⟩
    (command.body.utf8ByteSize ≤ 4086 ∧ unpack command.pack = .ok ⟨-1, .authResponse, "a\x00é"⟩ ∧
      IsFrame command.pack ∧ (⟨-1, .authResponse, "a\x00é"⟩ : Packet).pack = command.pack) ∧
    4086 < long.body.utf8ByteSize ∧ long.body.utf8ByteSize + 10 < 2 ^ 31 ∧
      ∃ defect, unpack long.pack = .error (.malformedPacket defect) := by
  intro command long
  obtain ⟨hframes, hback, hshort, hlong⟩ := packets_are_frames
  have hcommand : command.body.utf8ByteSize ≤ 4086 := by decide
  have hunpack := hshort command hcommand
  have hsize : long.body.utf8ByteSize = 4087 := by
    have hx : (String.utf8EncodeChar 'x').length = 1 := by decide
    rw [← Text.length_toBytes, Text.toBytes_eq, String.toList_ofList, List.length_flatMap,
      List.map_replicate, List.sum_replicate_nat, hx]
  exact ⟨⟨hcommand, hunpack, (hframes _).1 ⟨_, hunpack⟩, hback _ _ hunpack⟩, by omega, by omega,
    hlong long (by omega) (by omega)⟩

end Packet

end GameServers.Console
