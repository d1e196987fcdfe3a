import Mathlib.Logic.Relation
import MultiTechBus.Library.Triple
import MultiTechBus.Veins.ScenarioManager

/-! # What happens on the connection

Whatever the server sends, commands are sent, messages are received and the bounds of the
road network are set, and nothing else. Every message takes some of the bytes to come. A
program that halts does so for a reason that is not one of its own checks.
-/

namespace MultiTechBus.Veins

open MultiTechBus.Library TraCIConstants TraCIConnection TraCICommandInterface

/-! ### Reasons to halt -/

/-- The manager does not halt because its own tables are wrong. -/
structure Outside (k : Halt) : Prop where
  enabled : k ≠ .notEnabled
  duplicate : k ≠ .cRuntimeError "tried adding duplicate module"
  vehicle : ∀ nodeId : Str, k ≠ .cRuntimeError ("no vehicle with Id \"" ++ nodeId.text ++ "\" found")

theorem outside_of_head {what : String} {c : Char} (h : what.toList.head? = some c)
    (ht : c ≠ 't') (hn : c ≠ 'n') : Outside (.cRuntimeError what) := by
  refine ⟨nofun, fun heq => ht ?_, fun nodeId heq => hn ?_⟩
  · rw [Halt.cRuntimeError.inj heq] at h
    exact (Option.some.inj h).symm
  · rw [Halt.cRuntimeError.inj heq, String.toList_append, String.toList_append] at h
    exact (Option.some.inj h).symm

theorem outside_nullPointer : Outside .nullPointer := ⟨nofun, nofun, fun _ => nofun⟩

theorem head?_append {s t : String} {c : Char} (h : s.toList.head? = some c) :
    (s ++ t).toList.head? = some c := by
  rw [String.toList_append, List.head?_append, h]
  rfl

/-! ### Reading -/

/-- The reader halts only because of what it reads. -/
def Fails {α : Type} (r : TraCIBuffer.Read α) : Prop :=
  Triple (fun _ => True) r (fun _ _ => True) Outside

section

variable {σ α β : Type} {P : σ → Prop} {Q : β → σ → Prop}

theorem reading {r : TraCIBuffer.Read α} (hr : Fails r) {buf : TraCIBuffer}
    {f : α × TraCIBuffer → StateT σ (Except Halt) β}
    (h : ∀ a buf', Triple P (f (a, buf')) Q Outside) :
    Triple P (liftM (r buf) >>= f) Q Outside :=
  Triple.bind (Q := fun _ => P) (.lift (fun _ _ _ hs => hs) fun _ hk => hr.error trivial hk)
    fun x => h x.1 x.2

theorem triple_assert {holds : Bool} {condition : String} :
    Triple P (liftM (assert holds condition) : StateT σ (Except Halt) Unit)
      (fun _ s => holds = true ∧ P s) Outside := by
  refine .lift (fun _ s hok hs => ?_) fun k hk => ?_
  · cases holds with
    | true => exact ⟨rfl, hs⟩
    | false => cases hok
  · cases holds with
    | true => cases hk
    | false =>
        rw [← Except.error.inj hk]
        exact outside_of_head (head?_append (head?_append rfl)) (by decide) (by decide)

theorem asserting {holds : Bool} {condition : String} {f : Unit → StateT σ (Except Halt) β}
    (h : holds = true → Triple P (f ()) Q Outside) :
    Triple P (liftM (assert holds condition) >>= f) Q Outside :=
  triple_assert.bind fun _ s hs => h hs.1 s hs.2

end

namespace Fails

variable {α β : Type} {r : TraCIBuffer.Read α}

theorem map (h : Fails r) (g : α → β) : Fails (g <$> r) := Triple.map h fun _ _ _ => trivial

theorem bind {f : α → TraCIBuffer.Read β} (h : Fails r) (hf : ∀ a, Fails (f a)) :
    Fails (r >>= f) := Triple.bind h hf

theorem pure (a : α) : Fails (Pure.pure a) := Triple.pure fun _ _ => trivial

theorem many (h : Fails r) (n : Nat) : Fails (many r n) := by
  induction n with
  | zero => exact pure []
  | succ n ih => exact h.bind fun a => ih.map _

theorem readByte : Fails TraCIBuffer.readByte := by
  intro buf _
  cases buf with
  | nil => exact outside_of_head rfl (by decide) (by decide)
  | cons byte rest => trivial

theorem read (w k : Nat) : Fails (TraCIBuffer.read w k) := (readByte.many k).map _

theorem readString : Fails TraCIBuffer.readString :=
  (read 32 4).bind fun length => readByte.many length.toNat

theorem readCoord : Fails TraCIBuffer.readCoord :=
  (read 64 8).bind fun x => (read 64 8).map fun y => (⟨x, y⟩ : TraCICoord)

theorem readByteOrFull : Fails TraCIBuffer.readByteOrFull := by
  refine (read 8 1).bind fun shortBuf => Triple.get fun rest _ => ?_
  exact .ite (fun _ => .pure fun _ _ => trivial)
    fun _ => (read 32 4).mono (fun _ _ => trivial) fun _ _ => id

theorem readNpoints (netBoundaryType : BitVec 8) : Fails (readNpoints netBoundaryType) := by
  refine Triple.ite (fun _ => (read 8 1).bind fun npoints => ?_) fun _ => pure ()
  exact triple_assert.mono (fun _ => id) fun _ _ _ => trivial

theorem readCmdLength : Fails readCmdLength :=
  (read 8 1).bind fun _ => Triple.ite (fun _ => (read 32 4).bind fun _ => pure ()) fun _ => pure ()

theorem readTime (setup : Setup) (timeAsDouble : Bool) :
    Fails (TraCIScenarioManager.readTime setup timeAsDouble) := by
  unfold TraCIScenarioManager.readTime
  split
  · exact (read 64 8).map _
  · exact (read 32 4).map _

end Fails

/-! ### The connection -/

inductive TraCIConnection.Move : TraCIConnection → TraCIConnection → Prop
  | sends (c : TraCIConnection) (commandId : BitVec 8) (buf : TraCIBuffer) :
      Move c { c with
        outgoing := c.outgoing ++ message (makeTraCICommand commandId buf)
        sent := c.sent ++ [(commandId, buf)] }
  | receives (c : TraCIConnection) (incoming : List Received) :
      Move c { c with incoming := incoming }
  | bounds (c : TraCIConnection) (nb : TraCICoord × TraCICoord) :
      Move c { c with coordinateTransformation := some nb }

/-- The connection came here by its moves, and fewer than `n` bytes are to come. -/
structure Talks (c₀ : TraCIConnection) (n : Nat) (c : TraCIConnection) : Prop where
  moves : Relation.ReflTransGen TraCIConnection.Move c₀ c
  fewer : (Received.stream c.incoming).length < n

section Commands

variable {c₀ c : TraCIConnection} {n : Nat}

theorem Talks.more (h : Talks c₀ n c) : Talks c₀ (n + 1) c := ⟨h.moves, Nat.lt_succ_of_lt h.fewer⟩

theorem outside_of_recv {incoming : List Received} {k : Halt}
    (h : Received.recv incoming n = .error k) : Outside k := by
  have hclosed : Outside Received.closed := outside_of_head rfl (by decide) (by decide)
  induction incoming generalizing n with
  | nil =>
      cases n with
      | zero => cases h
      | succ n =>
          rw [← Except.error.inj h]
          exact hclosed
  | cons received incoming ih =>
      cases n with
      | zero => cases received <;> cases h
      | succ n =>
          cases received with
          | again => exact ih h
          | lost errno text =>
              rw [← Except.error.inj h]
              exact outside_of_head (head?_append (head?_append (head?_append rfl))) (by decide)
                (by decide)
          | bytes piece =>
              unfold Received.recv at h
              split at h
              · rw [← Except.error.inj h]
                exact hclosed
              · split at h
                · cases h
                · cases hrec : Received.recv incoming (n + 1 - piece.length) with
                  | error k' =>
                      rw [hrec] at h
                      obtain rfl : k' = k := Except.error.inj h
                      exact ih hrec
                  | ok x =>
                      rw [hrec] at h
                      cases h

/-- A message takes the bytes of its length at least. -/
theorem talks_receiveMessage :
    Triple (Talks c₀ (n + 1)) TraCIConnection.receiveMessage (fun _ => Talks c₀ n) Outside := by
  intro c hc
  have hreceive : TraCIConnection.receiveMessage c =
      (Received.receiveMessage c.incoming).map fun x => (x.1, { c with incoming := x.2 }) := rfl
  have hparts : Received.receiveMessage c.incoming = (Received.recv c.incoming 4).bind fun x =>
      Received.recv x.2 (BitVec.ofNat 32 (ofBigEndian x.1) - 4).toNat := rfl
  rw [hreceive, hparts]
  cases hheader : Received.recv c.incoming 4 with
  | error k => exact outside_of_recv hheader
  | ok header =>
      dsimp only [Except.bind]
      cases hbody : Received.recv header.2 (BitVec.ofNat 32 (ofBigEndian header.1) - 4).toNat with
      | error k => exact outside_of_recv hbody
      | ok body =>
          obtain ⟨hfour, hstream⟩ := Received.stream_of_recv hheader
          obtain ⟨-, hstream'⟩ := Received.stream_of_recv hbody
          have hlength := congrArg List.length hstream
          rw [hstream', List.length_append, List.length_append] at hlength
          have hfewer := hc.fewer
          exact ⟨hc.moves.tail (.receives c body.2),
            show (Received.stream body.2).length < n by omega⟩

theorem talks_sendCommand (commandId : BitVec 8) (buf : TraCIBuffer) :
    Triple (Talks c₀ n) (sendCommand commandId buf) (fun _ => Talks c₀ n) Outside :=
  fun c hc => ⟨hc.moves.tail (.sends c commandId buf), hc.fewer⟩

theorem talks_exchange (commandId : BitVec 8) (buf : TraCIBuffer) :
    Triple (Talks c₀ (n + 1)) (exchange commandId buf) (fun _ => Talks c₀ n) Outside := by
  refine (talks_sendCommand commandId buf).bind fun _ => talks_receiveMessage.bind fun _ => ?_
  refine reading (.read 8 1) fun _ _ => reading (.read 8 1) fun _ _ => asserting fun _ => ?_
  exact reading (.read 8 1) fun _ _ => reading .readString fun _ _ => .pure fun _ hc => hc

theorem talks_queryResult (commandId : BitVec 8) (buf : TraCIBuffer) :
    Triple (Talks c₀ (n + 1)) (queryResult commandId buf) (fun _ => Talks c₀ n) Outside := by
  refine (talks_exchange commandId buf).bind ?_
  rintro ⟨resultCode, description, obuf⟩
  exact .pure fun _ hc => hc

theorem talks_query (commandId : BitVec 8) (buf : TraCIBuffer) :
    Triple (Talks c₀ (n + 1)) (query commandId buf) (fun _ => Talks c₀ n) Outside := by
  refine (talks_exchange commandId buf).bind ?_
  rintro ⟨resultCode, description, obuf⟩
  refine .guard ?_ fun _ => .guard ?_ fun _ => .pure fun _ hc => hc
  · exact outside_of_head (head?_append (head?_append (head?_append (head?_append rfl)))) (by decide)
      (by decide)
  · exact outside_of_head (head?_append (head?_append (head?_append (head?_append (head?_append
      (head?_append rfl)))))) (by decide) (by decide)

/-- What takes a message leaves no more than there was. -/
theorem talks_keep {α : Type} {m : Commands α}
    (h : ∀ n, Triple (Talks c₀ (n + 1)) m (fun _ => Talks c₀ n) Outside) :
    Triple (Talks c₀ n) m (fun _ => Talks c₀ n) Outside := by
  cases n with
  | zero => exact fun c hc => absurd hc.fewer (Nat.not_lt_zero _)
  | succ n => exact (h n).mono (fun _ hc => hc) fun _ _ hc => hc.more

theorem talks_getVersion : Triple (Talks c₀ n) getVersion (fun _ => Talks c₀ n) Outside := by
  refine (talks_keep fun n => talks_queryResult _ _).bind ?_
  rintro ⟨result, buf⟩
  refine .ite (fun _ => asserting fun _ => .pure fun _ hc => hc) fun _ => ?_
  refine reading (.read 8 1) fun _ _ => reading (.read 8 1) fun _ _ => asserting fun _ => ?_
  refine reading (.read 32 4) fun _ _ => reading .readString fun _ _ => asserting fun _ => ?_
  exact .pure fun _ hc => hc

theorem talks_initNetworkBoundaries (versionConfig : VersionConfig) :
    Triple (Talks c₀ n) (initNetworkBoundaries versionConfig) (fun _ => Talks c₀ n) Outside := by
  refine (talks_keep fun n => talks_query _ _).bind fun buf => ?_
  refine reading (.read 8 1) fun _ _ => reading (.read 8 1) fun _ _ => asserting fun _ => ?_
  refine reading (.read 8 1) fun _ _ => asserting fun _ => reading .readString fun _ _ => ?_
  refine reading (.read 8 1) fun _ _ => asserting fun _ => reading (.readNpoints _) fun _ _ => ?_
  refine reading .readCoord fun nb1 _ => reading .readCoord fun nb2 _ => asserting fun _ => ?_
  exact .modify fun c hc => ⟨hc.moves.tail (.bounds c (nb1, nb2)), hc.fewer⟩

theorem talks_genericGet {α : Type} {readResult : TraCIBuffer.Read α} (hread : Fails readResult)
    (resultTypeId commandId : BitVec 8) (objectId : Str) (variableId responseId : BitVec 8) :
    Triple (Talks c₀ n) (genericGet resultTypeId readResult commandId objectId variableId responseId)
      (fun _ => Talks c₀ n) Outside := by
  refine (talks_keep fun n => talks_query _ _).bind fun _ => reading .readCmdLength fun _ _ => ?_
  refine reading (.read 8 1) fun _ _ => asserting fun _ => ?_
  refine reading (.read 8 1) fun _ _ => asserting fun _ => ?_
  refine reading .readString fun _ _ => asserting fun _ => ?_
  refine reading (.read 8 1) fun _ _ => asserting fun _ => ?_
  exact reading hread fun _ _ => asserting fun _ => .pure fun _ hc => hc

theorem talks_launch (setup : Setup) :
    Triple (Talks c₀ n) (TraCIScenarioManager.launch setup) (fun _ => Talks c₀ n) Outside := by
  refine talks_getVersion.bind ?_
  rintro ⟨apiVersion, serverVersion⟩
  refine .guard ?_ fun _ => ?_
  · exact outside_of_head (head?_append (head?_append (head?_append (head?_append (head?_append
      rfl))))) (by decide) (by decide)
  refine (talks_sendCommand _ _).bind fun _ => (talks_keep fun n => talks_receiveMessage).bind ?_
  refine fun obuf => reading (.read 8 1) fun _ _ => reading (.read 8 1) fun _ _ => .guard ?_ ?_
  · exact outside_of_head (head?_append (head?_append (head?_append rfl))) (by decide) (by decide)
  · exact fun _ => reading (.read 8 1) fun _ _ => reading .readString fun _ _ => .pure fun _ hc => hc

theorem talks_getTypeId (nodeId : Str) :
    Triple (Talks c₀ n) (getVehicleTypeId nodeId) (fun _ => Talks c₀ n) Outside :=
  talks_genericGet .readString _ _ _ _ _

theorem talks_readPolygons (setup : Setup) :
    Triple (Talks c₀ n) (TraCIScenarioManager.readPolygons setup) (fun _ => Talks c₀ n) Outside := by
  have hids : Fails (TraCIBuffer.readU32 >>= fun count => many TraCIBuffer.readString count.toNat) :=
    (Fails.read 32 4).bind fun count => Fails.readString.many count.toNat
  have hshape : Fails (TraCIBuffer.readByteOrFull >>=
      fun count => many TraCIBuffer.readCoord count.toNat) :=
    Fails.readByteOrFull.bind fun count => Fails.readCoord.many count.toNat
  refine .ite (fun _ => ?_) fun _ => .pure fun _ hc => hc
  refine (talks_genericGet hids _ _ _ _ _).bind fun ids => .forM fun id _ => ?_
  refine (talks_genericGet .readString _ _ _ _ _).bind fun typeId => .ite (fun _ => ?_) fun _ => ?_
  · exact (talks_genericGet hshape _ _ _ _ _).bind fun _ => .pure fun _ hc => hc
  · exact .pure fun _ hc => hc

end Commands

end MultiTechBus.Veins
