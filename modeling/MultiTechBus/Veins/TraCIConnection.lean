import MultiTechBus.Veins.TraCIBuffer

/-! # The connection to the TraCI server

Messages are cut out of what the socket delivers, in whatever pieces it arrives. Commands
carry their length in one byte, or in four bytes after a zero.
-/

namespace MultiTechBus.Veins

open MultiTechBus.Library

/-- What `recv` meets next on the socket. -/
inductive Received
  | bytes (piece : List (BitVec 8))
  /-- The call fails with `EINTR` or `EAGAIN`. -/
  | again
  /-- The call fails with another error. -/
  | lost (errno : Nat) (text : String)
deriving DecidableEq, Repr

namespace Received

abbrev Receive := Reader Received Halt

def closed : Halt :=
  .cRuntimeError "Connection to TraCI server closed unexpectedly. Check your server's log"

/-- The loop of `receiveMessage` that waits for a number of bytes; nothing more on the socket
and an empty piece are the end of the connection. -/
def recv : List Received → Nat → Except Halt (List (BitVec 8) × List Received)
  | incoming, 0 => .ok ([], incoming)
  | [], _ + 1 => .error closed
  | .again :: rest, n + 1 => recv rest (n + 1)
  | .lost errno text :: _, _ + 1 => .error (.cRuntimeError
      ("Connection to TraCI server lost. Check your server's log. Error message: " ++
        toString errno ++ ": " ++ text))
  | .bytes piece :: rest, n + 1 =>
      if piece = [] then .error closed
      else if n + 1 < piece.length then
        .ok (piece.take (n + 1), .bytes (piece.drop (n + 1)) :: rest)
      else (recv rest (n + 1 - piece.length)).map fun x => (piece ++ x.1, x.2)

/-- `receiveMessage`: the length of a message includes the four bytes of the length. -/
def receiveMessage : Receive Str := do
  let header ← fun incoming => recv incoming 4
  let msgLength := BitVec.ofNat 32 (ofBigEndian header)
  fun incoming => recv incoming (msgLength - 4).toNat

def stream (incoming : List Received) : List (BitVec 8) :=
  incoming.flatMap fun received =>
    match received with
    | .bytes piece => piece
    | _ => []

/-- The connection does not break. -/
def Stays (incoming : List Received) : Prop :=
  ∀ received ∈ incoming, received ≠ .bytes [] ∧ ∀ errno text, received ≠ .lost errno text

/-- As long as the connection stays, it does not matter in what pieces the bytes arrive. -/
theorem recv_spec {incoming : List Received} {n : Nat} (hstays : Stays incoming)
    (hn : n ≤ (stream incoming).length) :
    ∃ rest, recv incoming n = .ok ((stream incoming).take n, rest) ∧ Stays rest ∧
      stream rest = (stream incoming).drop n := by
  induction incoming generalizing n with
  | nil =>
      obtain rfl := Nat.le_zero.mp hn
      exact ⟨[], by simp [recv], hstays, rfl⟩
  | cons received incoming ih =>
      have htail : Stays incoming := fun r hr => hstays r (List.mem_cons_of_mem _ hr)
      cases n with
      | zero => exact ⟨received :: incoming, by cases received <;> rfl, hstays, rfl⟩
      | succ n =>
          cases received with
          | again => exact ih htail hn
          | lost errno text => exact absurd rfl ((hstays _ List.mem_cons_self).2 errno text)
          | bytes piece =>
              have hne : piece ≠ [] := fun h => (hstays _ List.mem_cons_self).1 (by rw [h])
              have hstream : stream (.bytes piece :: incoming) = piece ++ stream incoming := rfl
              rw [hstream] at hn ⊢
              unfold recv
              rw [if_neg hne]
              split
              · rename_i hlt
                refine ⟨_, by rw [List.take_append_of_le_length (Nat.le_of_lt hlt)], ?_, ?_⟩
                · intro r hr
                  rcases List.mem_cons.mp hr with rfl | hmem
                  · refine ⟨fun heq => ?_, nofun⟩
                    have hdrop := List.drop_eq_nil_iff.mp (Received.bytes.inj heq)
                    omega
                  · exact htail r hmem
                · rw [List.drop_append_of_le_length (Nat.le_of_lt hlt)]
                  rfl
              · rename_i hge
                rw [List.length_append] at hn
                obtain ⟨rest, hrest, hstays', hstream'⟩ :=
                  @ih (n + 1 - piece.length) htail (by omega)
                refine ⟨rest, ?_, hstays', ?_⟩
                · rw [hrest, List.take_append, List.take_of_length_le (l := piece) (by omega)]
                  rfl
                · rw [hstream', List.drop_append, List.drop_of_length_le (l := piece) (by omega),
                    List.nil_append]

theorem stream_of_recv {incoming rest : List Received} {n : Nat} {bytes : List (BitVec 8)}
    (h : recv incoming n = .ok (bytes, rest)) :
    bytes.length = n ∧ stream incoming = bytes ++ stream rest := by
  induction incoming generalizing n bytes with
  | nil =>
      cases n with
      | zero =>
          obtain ⟨rfl, rfl⟩ := Prod.mk.inj (Except.ok.inj h)
          exact ⟨rfl, rfl⟩
      | succ n => cases h
  | cons received incoming ih =>
      cases n with
      | zero =>
          have hzero : recv (received :: incoming) 0 = .ok ([], received :: incoming) := by
            cases received <;> rfl
          obtain ⟨rfl, rfl⟩ := Prod.mk.inj (Except.ok.inj (hzero.symm.trans h))
          exact ⟨rfl, rfl⟩
      | succ n =>
          cases received with
          | again => exact ih h
          | lost errno text => cases h
          | bytes piece =>
              unfold recv at h
              split at h
              · cases h
              · split at h
                · rename_i hlt
                  obtain ⟨rfl, rfl⟩ := Prod.mk.inj (Except.ok.inj h)
                  refine ⟨by rw [List.length_take]; omega, ?_⟩
                  show piece ++ stream incoming = piece.take (n + 1) ++
                    (piece.drop (n + 1) ++ stream incoming)
                  rw [← List.append_assoc, List.take_append_drop]
                · cases hrec : recv incoming (n + 1 - piece.length) with
                  | error k =>
                      rw [hrec] at h
                      cases h
                  | ok x =>
                      rw [hrec] at h
                      obtain ⟨rfl, rfl⟩ := Prod.mk.inj (Except.ok.inj h)
                      obtain ⟨hlength, hstream⟩ := ih hrec
                      refine ⟨by rw [List.length_append, hlength]; omega, ?_⟩
                      rw [List.append_assoc, ← hstream]
                      rfl

end Received

/-! ### Messages -/

/-- What `sendMessage` puts on the wire. -/
def message (buf : Str) : List (BitVec 8) :=
  TraCIBuffer.writeU32 (BitVec.ofNat 32 (4 + buf.length)) ++ buf

theorem length_message (buf : Str) : (message buf).length = buf.length + 4 := by
  unfold message
  rw [List.length_append, TraCIBuffer.length_writeU32, Nat.add_comm]

namespace Received

theorem receiveMessage_spec {incoming : List Received} {buf rest : List (BitVec 8)}
    (hstays : Stays incoming) (hbuf : 4 + buf.length < 2 ^ 32)
    (hstream : stream incoming = message buf ++ rest) :
    ∃ incoming', receiveMessage incoming = .ok (buf, incoming') ∧ Stays incoming' ∧
      stream incoming' = rest := by
  have hlength : 4 ≤ (stream incoming).length := by
    rw [hstream, List.length_append, length_message]
    omega
  obtain ⟨middle, hheader, hstays₁, hstream₁⟩ := recv_spec hstays hlength
  have hfour : (TraCIBuffer.writeU32 (BitVec.ofNat 32 (4 + buf.length))).length = 4 :=
    TraCIBuffer.length_writeU32 _
  rw [hstream, message, List.append_assoc, List.take_left' hfour] at hheader
  rw [hstream, message, List.append_assoc, List.drop_left' hfour] at hstream₁
  have hvalue : (BitVec.ofNat 32 (ofBigEndian
      (TraCIBuffer.writeU32 (BitVec.ofNat 32 (4 + buf.length)))) - 4).toNat = buf.length := by
    unfold TraCIBuffer.writeU32 TraCIBuffer.write
    have hbytes : 4 + buf.length < 256 ^ 4 := by omega
    rw [ofBigEndian_bigEndian, BitVec.toNat_ofNat, Nat.mod_eq_of_lt hbuf, Nat.mod_eq_of_lt hbytes]
    bv_omega
  obtain ⟨incoming', hbody, hstays₂, hstream₂⟩ :=
    recv_spec hstays₁ (n := buf.length) (by rw [hstream₁, List.length_append]; omega)
  rw [hstream₁, List.take_left] at hbody
  rw [hstream₁, List.drop_left] at hstream₂
  refine ⟨incoming', ?_, hstays₂, hstream₂⟩
  show (recv incoming 4).bind _ = _
  rw [hheader]
  show recv middle _ = _
  rw [hvalue]
  exact hbody

/-- Whatever pieces the bytes of messages arrive in, the messages are received as they were
sent, in order. -/
theorem receiveMessage_segmented {incoming : List Received} {messages : List Str}
    {rest : List (BitVec 8)} (hstays : Stays incoming)
    (hmessages : ∀ buf ∈ messages, 4 + buf.length < 2 ^ 32)
    (hstream : stream incoming = messages.flatMap message ++ rest) :
    ∃ incoming', many receiveMessage messages.length incoming = .ok (messages, incoming') ∧
      Stays incoming' ∧ stream incoming' = rest := by
  induction messages generalizing incoming with
  | nil => exact ⟨incoming, rfl, hstays, hstream⟩
  | cons buf messages ih =>
      rw [List.flatMap_cons, List.append_assoc] at hstream
      obtain ⟨middle, hfirst, hstays₁, hstream₁⟩ :=
        receiveMessage_spec hstays (hmessages buf List.mem_cons_self) hstream
      obtain ⟨incoming', hrest, hstays₂, hstream₂⟩ :=
        ih hstays₁ (fun b hb => hmessages b (List.mem_cons_of_mem _ hb)) hstream₁
      refine ⟨incoming', ?_, hstays₂, hstream₂⟩
      show (receiveMessage incoming).bind _ = _
      rw [hfirst]
      show (many receiveMessage messages.length middle).bind _ = _
      rw [hrest]
      rfl

end Received

/-! ### Commands -/

def makeTraCICommand (commandId : BitVec 8) (buf : TraCIBuffer) : Str :=
  if 2 + buf.length > 0xFF then
    TraCIBuffer.writeU8 0 ++ TraCIBuffer.writeU32 (BitVec.ofNat 32 (6 + buf.length)) ++
      TraCIBuffer.writeU8 commandId ++ buf
  else TraCIBuffer.writeU8 (BitVec.ofNat 8 (2 + buf.length)) ++ TraCIBuffer.writeU8 commandId ++ buf

/-- What the length of a command is for: a reader of commands. -/
def readCommand : TraCIBuffer.Read (BitVec 8 × TraCIBuffer) := do
  let length ← TraCIBuffer.readU8
  if length = 0 then
    let lengthExt ← TraCIBuffer.readU32
    let commandId ← TraCIBuffer.readU8
    Prod.mk commandId <$> many TraCIBuffer.readByte (lengthExt.toNat - 6)
  else
    let commandId ← TraCIBuffer.readU8
    Prod.mk commandId <$> many TraCIBuffer.readByte (length.toNat - 2)

theorem reads_makeTraCICommand (commandId : BitVec 8) {buf : TraCIBuffer}
    (hbuf : 6 + buf.length < 2 ^ 32) :
    Reads readCommand (makeTraCICommand commandId buf) (commandId, buf) := by
  have htail : ∀ length : Nat, length = buf.length → Reads (do
      let commandId ← TraCIBuffer.readU8
      Prod.mk commandId <$> many TraCIBuffer.readByte length)
      (TraCIBuffer.writeU8 commandId ++ buf) (commandId, buf) := by
    rintro _ rfl
    exact (TraCIBuffer.reads_u8 commandId).bind ((TraCIBuffer.reads_bytes buf).map _)
  unfold makeTraCICommand
  split
  · rw [List.append_assoc, List.append_assoc]
    refine (TraCIBuffer.reads_u8 0).bind ?_
    rw [if_pos rfl]
    refine (TraCIBuffer.reads_u32 _).bind (htail _ ?_)
    rw [BitVec.toNat_ofNat, Nat.mod_eq_of_lt hbuf]
    omega
  · rename_i hshort
    have hne : (BitVec.ofNat 8 (2 + buf.length)) ≠ 0 := by
      intro heq
      have hzero := congrArg BitVec.toNat heq
      rw [BitVec.toNat_ofNat, Nat.mod_eq_of_lt (by omega)] at hzero
      exact absurd hzero (by simp)
    rw [List.append_assoc]
    refine (TraCIBuffer.reads_u8 _).bind ?_
    rw [if_neg hne]
    refine htail _ ?_
    rw [BitVec.toNat_ofNat, Nat.mod_eq_of_lt (by omega)]
    omega

theorem length_makeTraCICommand_le (commandId : BitVec 8) (buf : TraCIBuffer) :
    (makeTraCICommand commandId buf).length ≤ buf.length + 6 := by
  unfold makeTraCICommand
  split <;> simp only [List.length_append, TraCIBuffer.length_writeU8,
    TraCIBuffer.length_writeU32] <;> omega

/-- Commands that are sent one after the other are received and read in order, whatever pieces
their bytes arrive in. -/
theorem readCommand_segmented {incoming : List Received} {commands : List (BitVec 8 × TraCIBuffer)}
    (hstays : Received.Stays incoming)
    (hcommands : ∀ command ∈ commands, 10 + command.2.length < 2 ^ 32)
    (hstream : Received.stream incoming =
      commands.flatMap fun command => message (makeTraCICommand command.1 command.2)) :
    ∃ messages rest, many Received.receiveMessage commands.length incoming = .ok (messages, rest) ∧
      Received.stream rest = [] ∧
      messages.map readCommand = commands.map fun command => .ok (command, []) := by
  have hmessages : ∀ buf ∈ commands.map (fun command => makeTraCICommand command.1 command.2),
      4 + buf.length < 2 ^ 32 := by
    intro buf hbuf
    obtain ⟨command, hmem, rfl⟩ := List.mem_map.mp hbuf
    have hle := length_makeTraCICommand_le command.1 command.2
    have hlt := hcommands command hmem
    omega
  have hflat : Received.stream incoming =
      (commands.map fun command => makeTraCICommand command.1 command.2).flatMap message ++ [] := by
    rw [hstream, List.flatMap_map, List.append_nil]
  obtain ⟨rest, hmany, -, hrest⟩ := Received.receiveMessage_segmented hstays hmessages hflat
  rw [List.length_map] at hmany
  refine ⟨_, rest, hmany, hrest, ?_⟩
  rw [List.map_map]
  refine List.map_congr_left fun command hmem => ?_
  have hlt := hcommands command hmem
  have hread := reads_makeTraCICommand command.1 (by omega : 6 + command.2.length < 2 ^ 32) []
  rwa [List.append_nil] at hread

end MultiTechBus.Veins
