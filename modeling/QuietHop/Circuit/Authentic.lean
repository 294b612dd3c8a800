import QuietHop.Circuit.Voices
import QuietHop.Client.Dialer
import QuietHop.Relay.Rejection

namespace QuietHop
namespace Circuit

open Lib Net Registry Wire Client

/-!
# Whom a circuit's keys are shared with

The dialer against everything behind its link: whatever arrives, in reads of any size, and
whatever its transports open.  A key that the dialer or its task ever uses for a hop comes
from a handshake with a holder of the static key under which the registry lists the relay
that was selected for that hop, and it is never exchanged for another.
-/

def DialArgs.entry (args : DialArgs) : Hop -> RelayEntry
  | .guard => args.route.guard
  | .middle => args.route.middle
  | .exit => args.route.exit

section Vouching

variable {Secret Seed Initiator Key : Type}

/-- A handshake with the relay that was selected for a hop is under way. -/
def Pending (nk : NoiseNk Secret Seed Initiator Key) (args : DialArgs) (seed : Hop -> Seed) (hop : Hop)
    (initiator : Initiator) (first : NoiseMsg) : Prop :=
  ∃ named, (DialArgs.entry args hop).staticKey = .ok named ∧ nk.start named (seed hop) = some (initiator, first)

/-- A key that such a handshake has ended with. -/
def Vouched (nk : NoiseNk Secret Seed Initiator Key) (args : DialArgs) (seed : Hop -> Seed) (hop : Hop) (key : Key) : Prop :=
  ∃ initiator first second, Pending nk args seed hop initiator first ∧ nk.finish initiator second = some key

/-- The hop a dialer is waiting for. -/
def awaitedHop (reached : Reached Key) : Hop :=
  if reached.middle.isSome then .exit else .middle

/-- Every key that is held is vouched for, and so is the handshake that is under way. -/
structure Proven (nk : NoiseNk Secret Seed Initiator Key) (args : DialArgs) (seed : Hop -> Seed)
    (dialer : Dialer Initiator Key) : Prop where
  held : forall hop tx, dialer.tx hop = some tx -> Vouched nk args seed hop tx.key
  greeting : forall initiator acc outputs, dialer = .greeting initiator acc outputs ->
    ∃ first, Pending nk args seed .guard initiator first
  extending : forall initiator acc io, dialer = .extending initiator acc io ->
    ∃ first, Pending nk args seed (awaitedHop io.transports) initiator first

/-! ## What the programs leave alone -/

/-- The transports keep their keys. -/
def SameReached (before after : Reached Key) : Prop :=
  forall hop, (after.tx hop).map Transport.key = (before.tx hop).map Transport.key

instance : Std.Refl (@SameReached Key) where
  refl _ := fun _ => rfl

instance : IsTrans (Reached Key) SameReached where
  trans _ _ _ head tail := fun hop => (tail hop).trans (head hop)

instance : Std.Refl (@SameKeys Key) where
  refl := SameKeys.refl

instance : IsTrans (Layers Key) SameKeys where
  trans _ _ _ := SameKeys.trans

/-- A part of `dial` that changes its transports in some way only. -/
def Within {Transports : Type} (relation : Transports -> Transports -> Prop) (before after : DialIo Transports) : Prop :=
  relation before.transports after.transports

instance {Transports : Type} {relation : Transports -> Transports -> Prop} [Std.Refl relation] :
    Std.Refl (Within relation) where
  refl io := refl_of relation io.transports

instance {Transports : Type} {relation : Transports -> Transports -> Prop} [IsTrans Transports relation] :
    IsTrans (DialIo Transports) (Within relation) where
  trans _ _ _ head tail := trans_of relation head tail

theorem onTransports_within {Transports Value : Type} {relation : Transports -> Transports -> Prop}
    {operation : Transports -> Except ClientError Value × Transports}
    (keeps : forall transports, relation transports (operation transports).2) :
    Program.Keeps (Within relation) (onTransports operation) := by
  intro io
  have same := keeps io.transports
  simp only [onTransports]
  split
  · next result =>
      rw [result] at same
      exact same
  · next result =>
      rw [result] at same
      exact same

theorem send_within {Transports : Type} {relation : Transports -> Transports -> Prop} [Std.Refl relation]
    [IsTrans Transports relation] {env : TaskEnv} (bytes : Bytes) :
    Program.Keeps (Within relation) (send env bytes) := by
  refine Program.keeps_bind Program.keeps_get fun io => ?_
  split
  · exact Program.keeps_modify fun io => refl_of relation io.transports
  · exact Program.keeps_bind (Program.keeps_modify fun io => refl_of relation io.transports) fun _ => Program.keeps_fail _

theorem sameReached_of {before : Reached Key} {guard : Transport Key} {middle : Option (Transport Key)}
    (guardKey : guard.key = before.guard.key) (middleKey : middle.map Transport.key = before.middle.map Transport.key) :
    SameReached before ⟨guard, middle⟩ := by
  intro hop
  cases hop with
  | guard => exact congrArg some guardKey
  | middle => exact middleKey
  | exit => rfl

variable {nk : NoiseNk Secret Seed Initiator Key} {aead : NoiseAead Key} {args : DialArgs} {seed : Hop -> Seed}
  {env : TaskEnv}

theorem sealExtend_keys (reached : Reached Key) (cell : Cell) : SameReached reached (sealExtend aead reached cell).2 := by
  rcases reached with ⟨guard, middle⟩
  cases middle with
  | none =>
      have same := @sealToMe_key Key aead guard cell clientLayers
      simp only [sealExtend]
      split
      · next result => exact sameReached_of (by rw [← same, result]) rfl
      · next result => exact sameReached_of (by rw [← same, result]) rfl
  | some middle =>
      have inner := @sealToMe_key Key aead middle cell (clientLayers - 1)
      simp only [sealExtend]
      split
      · next result => exact sameReached_of rfl (congrArg some (by rw [← inner, result]))
      next blob tx result =>
      have middleKey : (some tx).map Transport.key = (some middle).map Transport.key := congrArg some (by rw [← inner, result])
      have outer := @sealForward_key Key aead guard blob clientLayers
      split
      · next sealed => exact sameReached_of (by rw [← outer, sealed]) middleKey
      · next sealed => exact sameReached_of (by rw [← outer, sealed]) middleKey

theorem peelReply_keys (reached : Reached Key) (wire : Bytes) : SameReached reached (peelReply env reached wire).2 := by
  rcases reached with ⟨guard, middle⟩
  have outer := peel_key env.logs.guard guard wire clientLayers
  rcases opened : peel env.logs.guard guard wire clientLayers with ⟨result, tx⟩
  rw [opened] at outer
  cases middle with
  | none => rcases result with reason | (cell | blob) <;> simp only [peelReply, opened] <;> exact sameReached_of outer rfl
  | some middle =>
      rcases result with reason | (cell | blob)
      · simp only [peelReply, opened]
        exact sameReached_of outer rfl
      · simp only [peelReply, opened]
        exact sameReached_of outer rfl
      · have inner := peel_key env.logs.middle middle blob (clientLayers - 1)
        rcases within : peel env.logs.middle middle blob (clientLayers - 1) with ⟨result, held⟩
        rw [within] at inner
        rcases result with reason | (cell | deeper) <;> simp only [peelReply, opened, within] <;>
          exact sameReached_of outer (congrArg some inner)

theorem initiate_keys (key : Key32) (seed : Seed) :
    Program.Keeps (Within SameReached) (initiate nk key seed : DialM (Reached Key) _) := by
  rw [initiate]
  split
  · exact Program.keeps_fail _
  · exact Program.keeps_pure _

theorem extendHop_keys (next : RelayEntry) (seed : Seed) :
    Program.Keeps (Within SameReached) (extendHop nk aead env next seed) := by
  refine Program.keeps_bind (Program.keeps_ofExcept _ _) fun key => ?_
  refine Program.keeps_bind (initiate_keys key seed) fun started => ?_
  refine Program.keeps_bind (Program.keeps_ofExcept _ _) fun addr => ?_
  refine Program.keeps_bind (Program.keeps_ofExcept _ _) fun cell => ?_
  refine Program.keeps_bind (onTransports_within fun reached => sealExtend_keys reached cell) fun wire => ?_
  exact Program.keeps_bind (send_within wire) fun _ => Program.keeps_pure _

theorem extended_keys (initiator : Initiator) (back : Bytes) :
    Program.Keeps (Within SameReached) (extended nk env initiator back) := by
  refine Program.keeps_bind (onTransports_within fun reached => peelReply_keys reached back) fun reply => ?_
  split_ifs
  · exact Program.keeps_fail _
  · refine Program.keeps_bind (Program.keeps_ofExcept _ _) fun message2 => ?_
    rw [conclude]
    split
    · exact Program.keeps_fail _
    · exact Program.keeps_pure _

theorem sendConnect_keys : Program.Keeps (Within SameKeys) (sendConnect aead args env) := by
  refine Program.keeps_bind (Program.keeps_ofExcept _ _) fun payload => ?_
  refine Program.keeps_bind (Program.keeps_ofExcept _ _) fun cell => ?_
  exact Program.keeps_bind (onTransports_within fun held => sealForExit_keys held cell) fun wire => send_within wire

/-! ## What the programs return -/

theorem returns_ofExcept {Inner Error State Value : Type} {embed : Inner -> Error} (result : Except Inner Value) :
    Program.Returns (fun value => result = .ok value) (Program.ofExcept embed result : Program Error State Value) := by
  cases result with
  | error reason => exact Program.returns_fail _
  | ok value => exact Program.returns_pure rfl

theorem returns_initiate {Transports : Type} (key : Key32) (seed : Seed) :
    Program.Returns (fun started => nk.start key seed = some started)
      (initiate nk key seed : DialM Transports (Initiator × NoiseMsg)) := by
  rw [initiate]
  cases nk.start key seed with
  | none => exact Program.returns_fail _
  | some started => exact Program.returns_pure rfl

theorem returns_conclude {Transports : Type} (initiator : Initiator) (message2 : Option NoiseMsg) :
    Program.Returns (fun key => ∃ second, nk.finish initiator second = some key)
      (conclude nk initiator message2 : DialM Transports Key) := by
  rw [conclude]
  cases finished : message2.bind (nk.finish initiator) with
  | none => exact Program.returns_fail _
  | some key =>
      rcases Option.bind_eq_some_iff.mp finished with ⟨second, -, done⟩
      exact Program.returns_pure ⟨second, done⟩

theorem returns_extendHop (hop : Hop) :
    Program.Returns (fun initiator => ∃ first, Pending nk args seed hop initiator first)
      (extendHop nk aead env (DialArgs.entry args hop) (seed hop)) := by
  refine Program.returns_bind_of_returns (returns_ofExcept _) fun named listed => ?_
  refine Program.returns_bind_of_returns (returns_initiate named (seed hop)) fun started starts => ?_
  refine Program.returns_bind fun addr => ?_
  refine Program.returns_bind fun cell => ?_
  refine Program.returns_bind fun wire => ?_
  exact Program.returns_bind fun _ => Program.returns_pure ⟨started.2, named, listed, starts⟩

theorem returns_greet (tls : Except LinkError Unit) :
    Program.Returns (fun initiator => ∃ first, Pending nk args seed .guard initiator first)
      (greet nk args env tls (seed .guard)) := by
  refine Program.returns_bind fun _ => ?_
  refine Program.returns_bind_of_returns (returns_ofExcept _) fun named listed => ?_
  refine Program.returns_bind fun _ => Program.returns_bind fun _ => Program.returns_bind fun _ => ?_
  refine Program.returns_bind fun _ => ?_
  refine Program.returns_bind_of_returns (returns_initiate named (seed .guard)) fun started starts => ?_
  exact Program.returns_bind fun _ => Program.returns_pure ⟨started.2, named, listed, starts⟩

theorem returns_extended (initiator : Initiator) (back : Bytes) :
    Program.Returns (fun key => ∃ second, nk.finish initiator second = some key)
      (extended nk env initiator back : DialM (Reached Key) Key) := by
  refine Program.returns_bind fun reply => ?_
  split_ifs
  · exact Program.returns_fail _
  · exact Program.returns_bind fun message2 => returns_conclude initiator (some message2)

/-! ## Steps -/

theorem vouched_of_same {before after : Reached Key} (same : SameReached before after)
    (held : forall hop tx, before.tx hop = some tx -> Vouched nk args seed hop tx.key) (hop : Hop) (tx : Transport Key)
    (found : after.tx hop = some tx) : Vouched nk args seed hop tx.key := by
  have keys := same hop
  rw [found] at keys
  rcases Option.map_eq_some_iff.mp keys.symm with ⟨old, there, key⟩
  rw [← key]
  exact held hop old there

theorem awaitedHop_of_same {before after : Reached Key} (same : SameReached before after) :
    awaitedHop after = awaitedHop before := by
  have kept := congrArg Option.isSome (same .middle)
  rw [Option.isSome_map, Option.isSome_map] at kept
  have presence : after.middle.isSome = before.middle.isSome := kept
  rw [awaitedHop, awaitedHop, presence]

theorem proven_failed {error : DialError} {transports : Hop -> Option (Transport Key)} {outputs : List TaskOutput}
    (held : forall hop tx, transports hop = some tx -> Vouched nk args seed hop tx.key) :
    Proven nk args seed (.failed error transports outputs) := by
  refine ⟨held, ?_, ?_⟩
  · rintro _ _ _ ⟨⟩
  · rintro _ _ _ ⟨⟩

theorem proven_streaming {task : CircuitTask Key}
    (held : forall hop, Vouched nk args seed hop (task.io.layers.tx hop).key) :
    Proven nk args seed (.streaming task : Dialer Initiator Key) := by
  refine ⟨?_, by rintro _ _ _ ⟨⟩, by rintro _ _ _ ⟨⟩⟩
  intro hop tx found
  cases found
  exact held hop

theorem proven_start (tls : Except LinkError Unit) (fault : Nat -> Option Nat) :
    Proven nk args seed (Dialer.start nk args seed tls fault) := by
  have pending := @returns_greet _ _ _ _ nk args seed ⟨⟨[], [], []⟩, fault⟩ tls ⟨(), []⟩
  rw [Dialer.start]
  split
  · exact proven_failed (by rintro _ _ ⟨⟩)
  · next initiator io result =>
      rw [result] at pending
      refine ⟨by rintro _ _ ⟨⟩, ?_, by rintro _ _ _ ⟨⟩⟩
      rintro _ _ _ ⟨⟩
      exact pending initiator rfl

theorem proven_extend {io : DialIo (Reached Key)}
    (held : forall hop tx, io.transports.tx hop = some tx -> Vouched nk args seed hop tx.key) :
    Proven nk args seed (Dialer.extend nk aead args seed env io) := by
  have chosen : (if io.transports.middle.isSome then (args.route.exit, seed .exit) else (args.route.middle, seed .middle)) =
      (DialArgs.entry args (awaitedHop io.transports), seed (awaitedHop io.transports)) := by
    rw [awaitedHop]
    split_ifs <;> rfl
  have same := @extendHop_keys _ _ _ _ nk aead env (DialArgs.entry args (awaitedHop io.transports))
    (seed (awaitedHop io.transports)) io
  have pending := @returns_extendHop _ _ _ _ nk aead args seed env (awaitedHop io.transports) io
  simp only [Dialer.extend, chosen]
  split
  · next result =>
      rw [result] at same
      exact proven_failed (vouched_of_same same held)
  · next initiator after result =>
      rw [result] at same pending
      refine ⟨vouched_of_same same held, by rintro _ _ _ ⟨⟩, ?_⟩
      rintro _ _ _ ⟨⟩
      rw [awaitedHop_of_same same]
      exact pending initiator rfl

theorem proven_connect {layers : Layers Key} {outputs : List TaskOutput}
    (held : forall hop, Vouched nk args seed hop (layers.tx hop).key) :
    Proven nk args seed (Dialer.connect aead args env layers outputs) := by
  have same : SameKeys layers ((sendConnect aead args env).run ⟨layers, outputs⟩).2.transports :=
    sendConnect_keys ⟨layers, outputs⟩
  have vouched (hop : Hop) :
      Vouched nk args seed hop ((((sendConnect aead args env).run ⟨layers, outputs⟩).2.transports).tx hop).key := by
    rw [same hop]
    exact held hop
  rw [Dialer.connect]
  split
  · next result =>
      rw [result] at vouched
      refine proven_failed ?_
      intro hop tx found
      cases found
      exact vouched hop
  · next result =>
      rw [result] at vouched
      exact proven_streaming vouched

theorem proven_onGreeting {initiator : Initiator} {first : NoiseMsg} {message2 : Bytes} {outputs : List TaskOutput}
    (pending : Pending nk args seed .guard initiator first) :
    Proven nk args seed (Dialer.onGreeting nk aead args seed env initiator message2 outputs) := by
  have finished := @returns_conclude _ _ _ _ nk Unit initiator (noiseMsg message2) ⟨(), outputs⟩
  rw [Dialer.onGreeting]
  split
  · exact proven_failed (by rintro _ _ ⟨⟩)
  · next key io result =>
      rw [result] at finished
      rcases finished key rfl with ⟨second, done⟩
      apply proven_extend
      intro hop tx found
      cases hop with
      | guard =>
          cases found
          exact ⟨initiator, first, second, pending, done⟩
      | middle => cases found
      | exit => cases found

theorem proven_onReply {initiator : Initiator} {first : NoiseMsg} {back : Bytes} {io : DialIo (Reached Key)}
    (pending : Pending nk args seed (awaitedHop io.transports) initiator first)
    (held : forall hop tx, io.transports.tx hop = some tx -> Vouched nk args seed hop tx.key) :
    Proven nk args seed (Dialer.onReply nk aead args seed env initiator back io) := by
  have same := @extended_keys _ _ _ _ nk env initiator back io
  have finished := @returns_extended _ _ _ _ nk env initiator back io
  rw [Dialer.onReply]
  split
  · next result =>
      rw [result] at same
      exact proven_failed (vouched_of_same same held)
  next key after result =>
  rw [result] at same finished
  rcases finished key rfl with ⟨second, done⟩
  have kept := vouched_of_same same held
  rw [← awaitedHop_of_same same] at pending
  split
  next alone =>
    apply proven_extend
    intro hop tx found
    cases hop with
    | guard => exact kept .guard tx found
    | middle =>
        cases found
        rw [awaitedHop, alone] at pending
        exact ⟨initiator, first, second, pending, done⟩
    | exit => cases found
  next middle both =>
    apply proven_connect
    intro hop
    cases hop with
    | guard => exact kept .guard _ rfl
    | middle => exact kept .middle middle both
    | exit =>
        rw [awaitedHop, both] at pending
        exact ⟨initiator, first, second, pending, done⟩

theorem Proven.step {dialer : Dialer Initiator Key} (proven : Proven nk args seed dialer) (ready : TaskReady) :
    Proven nk args seed (dialer.step nk aead args seed env ready) := by
  have aborted (error : LinkError) : Proven nk args seed (dialer.abort error) := proven_failed proven.held
  cases dialer with
  | streaming task =>
      apply proven_streaming
      intro hop
      rw [task_keys task ready hop]
      exact proven.held hop _ rfl
  | failed error transports outputs => exact proven
  | greeting initiator inbound outputs =>
      rcases proven.greeting initiator inbound outputs rfl with ⟨first, pending⟩
      refine Dialer.step_greeting nk aead args seed env (motive := Proven nk args seed) ?_ aborted ?_ ready
      · refine fun later => ⟨by rintro _ _ ⟨⟩, ?_, by rintro _ _ _ ⟨⟩⟩
        rintro _ _ _ ⟨⟩
        exact ⟨first, pending⟩
      · exact fun message2 => proven_onGreeting pending
  | extending initiator inbound io =>
      rcases proven.extending initiator inbound io rfl with ⟨first, pending⟩
      refine Dialer.step_extending nk aead args seed env (motive := Proven nk args seed) ?_ aborted ?_ ready
      · refine fun later => ⟨proven.held, by rintro _ _ _ ⟨⟩, ?_⟩
        rintro _ _ _ ⟨⟩
        exact ⟨first, pending⟩
      · exact fun back => proven_onReply pending proven.held

/-! ## Keys stay -/

/-- Every key that was held is held still. -/
def Retains (before after : Dialer Initiator Key) : Prop :=
  forall hop key, (before.tx hop).map Transport.key = some key -> (after.tx hop).map Transport.key = some key

theorem extend_keys (io : DialIo (Reached Key)) (hop : Hop) :
    ((Dialer.extend nk aead args seed env io).tx hop).map Transport.key = (io.transports.tx hop).map Transport.key := by
  simp only [Dialer.extend]
  generalize (if io.transports.middle.isSome then (args.route.exit, seed .exit) else (args.route.middle, seed .middle)) = next
  have same := @extendHop_keys _ _ _ _ nk aead env next.1 next.2 io
  split
  · next result =>
      rw [result] at same
      exact same hop
  · next result =>
      rw [result] at same
      exact same hop

theorem connect_keys (layers : Layers Key) (outputs : List TaskOutput) (hop : Hop) :
    ((Dialer.connect aead args env layers outputs : Dialer Initiator Key).tx hop).map Transport.key =
      some (layers.tx hop).key := by
  have same := @sendConnect_keys _ aead args env ⟨layers, outputs⟩
  rw [Dialer.connect]
  split
  · next result =>
      rw [result] at same
      exact congrArg some (same hop)
  · next result =>
      rw [result] at same
      exact congrArg some (same hop)

theorem retains_onReply (initiator : Initiator) (inbound : FrameAccumulator) (back : Bytes) (io : DialIo (Reached Key)) :
    Retains (.extending initiator inbound io) (Dialer.onReply nk aead args seed env initiator back io) := by
  intro hop key held
  have same := @extended_keys _ _ _ _ nk env initiator back io
  rw [Dialer.onReply]
  split
  · next result =>
      rw [result] at same
      exact (same hop).trans held
  next answered after result =>
  rw [result] at same
  have kept : (after.transports.tx hop).map Transport.key = some key := (same hop).trans held
  split
  · next alone =>
      rw [extend_keys]
      cases hop with
      | guard => exact kept
      | middle =>
          rw [Reached.tx, alone] at kept
          cases kept
      | exit => cases kept
  · next middle both =>
      rw [connect_keys]
      cases hop with
      | guard => exact kept
      | middle =>
          rw [Reached.tx, both] at kept
          exact kept
      | exit => cases kept

theorem step_retains (dialer : Dialer Initiator Key) (ready : TaskReady) :
    Retains dialer (dialer.step nk aead args seed env ready) := by
  cases dialer with
  | streaming task =>
      intro hop key held
      exact (congrArg some (task_keys task ready hop)).trans held
  | failed error transports outputs => exact fun hop key held => held
  | greeting initiator inbound outputs =>
      -- Nothing is held yet.
      rintro hop key ⟨⟩
  | extending initiator inbound io =>
      refine Dialer.step_extending nk aead args seed env (motive := Retains (.extending initiator inbound io)) ?_ ?_ ?_ ready
      · exact fun later hop key held => held
      · exact fun error hop key held => held
      · exact fun back => retains_onReply initiator inbound back io

end Vouching

/-! ## Every call of `dial` -/

section Calls

variable {Secret Seed Initiator Key : Type} (nk : NoiseNk Secret Seed Initiator Key) (aead : NoiseAead Key)
  (args : DialArgs) (seed : Hop -> Seed)

/-- A call of `dial` and its task, on whatever the link brings. -/
def dialed (tls : Except LinkError Unit) (fault : Nat -> Option Nat) (turns : List (TaskEnv × TaskReady)) :
    Dialer Initiator Key :=
  turns.foldl (fun dialer turn => dialer.step nk aead args seed turn.1 turn.2) (Dialer.start nk args seed tls fault)

theorem dialed_retains (tls : Except LinkError Unit) (fault : Nat -> Option Nat) (turns more : List (TaskEnv × TaskReady)) :
    Retains (dialed nk aead args seed tls fault turns) (dialed nk aead args seed tls fault (turns ++ more)) := by
  rw [dialed, dialed, List.foldl_append]
  generalize turns.foldl (fun dialer turn => Dialer.step nk aead args seed turn.1 dialer turn.2) _ = first
  refine List.foldlRecOn more _ (motive := Retains first) (fun hop key held => held) ?_
  intro dialer kept turn _ hop key held
  exact step_retains dialer turn.2 hop key (kept hop key held)

end Calls

/-! A guard that answers, in front of a middle whose listed key is not usable. -/

/-- A static key as a message of the handshake. -/
def keyMessage (key : Key32) : NoiseMsg :=
  ⟨key.val ++ List.replicate noiseTagLen 0, by rw [List.length_append, key.property, List.length_replicate]; rfl⟩

theorem keyMessage_injective (first second : Key32) (same : keyMessage first = keyMessage second) : first = second :=
  Subtype.ext (List.append_cancel_right (congrArg Subtype.val same))

def echoNk : NoiseNk Key32 Unit Key32 Unit :=
  Handshake.echo keyMessage (fun _ => ()) keyMessage_injective

def sampleEntry (role staticPubkey : String) : RelayEntry :=
  ⟨role, "operator-" ++ role, "host-" ++ role, role, "192.0.2.1", 443, role ++ ".example", staticPubkey⟩

def zeroHex : String := "0000000000000000000000000000000000000000000000000000000000000000"

theorem length_zeroKey : (List.replicate 32 (0 : UInt8)).length = 32 := List.length_replicate

def zeroKey : Key32 := ⟨List.replicate 32 0, length_zeroKey⟩

def sampleArgs (middleKey : String) : DialArgs where
  route := ⟨sampleEntry "guard" zeroHex, sampleEntry "middle" middleKey, sampleEntry "exit" zeroHex, 3⟩
  mRaw := List.replicate mRawLen 0
  token := List.replicate tokenLen 0
  destHost := "example"
  destPort := 443
  mRaw_length := List.length_replicate

/-- The guard's answer arrives in one read. -/
def guardAnswers : List (TaskEnv × TaskReady) :=
  [(⟨⟨[], [], []⟩, fun _ => none⟩, .linkRead (keyMessage zeroKey).val)]

end Circuit
end QuietHop
