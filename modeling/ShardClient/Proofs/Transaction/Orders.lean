/-
What payloads order, read from nothing but their bytes.

A payload is split at its at signs, and then each part is read for itself: digits as bytes, bytes as
a number or as a text.  The parts are written by two different routines and some of them may be
empty, but no digit is an at sign, so none is ever split or joined with its neighbour.  Only the
name of a function is written as it is; it has to do without at signs.  What is read is exactly what
was to be ordered, so different orders of one kind never share a payload.
-/
import ShardClient.Proofs.Transaction.Moved
import ShardClient.Proofs.Transaction.Sealed

namespace ShardClient

namespace Payload

/-! ### Reading arguments -/

/-- The bytes that an argument spells. -/
def bytes? (argument : Bytes) : Option Bytes := (Hex.decode argument).toOption

/-- The amounts that arguments spell. -/
def amounts? (arguments : List Bytes) : Option (List Amount) := arguments.mapM amount?

/-- The truth value that an argument names. -/
def flag? (argument : Bytes) : Option Bool :=
  (name? argument).bind fun word =>
    if word = "true" then some true else if word = "false" then some false else none

/-- The properties that arguments list, two for each: its name and whether it holds. -/
def properties? : List Bytes → Option (List (String × Bool))
  | [] => some []
  | property :: value :: rest => do
    let property ← name? property
    let value ← flag? value
    let others ← properties? rest
    some ((property, value) :: others)
  | _ => none

theorem bytes?_hex (bs : Bytes) : bytes? (Utf8.encode (Hex.encode bs)) = some bs := by
  rw [bytes?, Hex.decode_encode]
  rfl

theorem amounts?_unsigned (ns : List Amount) :
    amounts? ((ns.map unsigned).map Utf8.encode) = some ns := by
  unfold amounts?
  induction ns with
  | nil => rfl
  | cons n ns ih =>
    rw [List.map_cons, List.map_cons, List.mapM_cons, amount?_unsigned, ih]
    rfl

theorem flag?_flag (b : Bool) : flag? (Utf8.encode (flag b)) = some b := by
  rw [flag?, flag, name?_name]
  cases b <;> rfl

theorem properties?_arguments (ps : List (String × Bool)) :
    properties? ((ps.flatMap fun p => [name p.1, flag p.2]).map Utf8.encode) = some ps := by
  induction ps with
  | nil => rfl
  | cons p ps ih =>
    rw [List.flatMap_cons]
    simp only [List.cons_append, List.nil_append, List.map_cons, properties?, name?_name,
      flag?_flag, ih, Option.bind_eq_bind, Option.bind_some]

/-! ### At signs -/

theorem at_not_mem_name (s : String) : (0x40 : UInt8) ∉ Utf8.encode (name s) :=
  at_not_mem_hex _

theorem at_not_mem_flag (b : Bool) : (0x40 : UInt8) ∉ Utf8.encode (flag b) :=
  at_not_mem_name _

/-- A text has the byte of an at sign only if it has an at sign. -/
theorem at_not_mem_text {s : String} (h : '@' ∉ s.toList) : (0x40 : UInt8) ∉ Utf8.encode s :=
  fun hat => h (Utf8.ofNat_mem_of_mem_encode (by decide) hat)

theorem at_not_mem_amounts (ns : List Amount) :
    ∀ part ∈ ns.map unsigned, (0x40 : UInt8) ∉ Utf8.encode part := by
  intro part hpart
  obtain ⟨n, -, rfl⟩ := List.mem_map.1 hpart
  exact at_not_mem_unsigned n

end Payload

/-! ### Reading payloads -/

/-- What a deployment orders. -/
structure DeploymentOrder where
  code : Bytes
  metadata : Bytes
  arguments : List Amount
  deriving DecidableEq

/-- What a call orders. -/
structure CallOrder where
  function : String
  arguments : List Amount
  deriving DecidableEq

/-- What an envelope of version two orders. -/
structure RelayOrder where
  receiver : Address
  nonce : UInt64
  data : Bytes
  signature : Signature
  deriving DecidableEq

/-- Reads the payload of a deployment. -/
def DeploymentOrder.ofPayload? (data : Bytes) : Option DeploymentOrder :=
  match Payload.parts data with
  | code :: machine :: metadata :: arguments =>
    if machine = Utf8.encode Draft.machineArgument then do
      let code ← Payload.bytes? code
      let metadata ← Payload.bytes? metadata
      let arguments ← Payload.amounts? arguments
      some ⟨code, metadata, arguments⟩
    else none
  | _ => none

/-- Reads the payload of a call. -/
def CallOrder.ofPayload? (data : Bytes) : Option CallOrder :=
  match Payload.parts data with
  | function :: arguments => do
    let function ← Utf8.decode? function
    let arguments ← Payload.amounts? arguments
    some ⟨function, arguments⟩
  | [] => none

/-- The number of decimals that an argument spells, if it is not too great. -/
def Issuance.decimals? (argument : Bytes) : Option UInt32 :=
  (Payload.natural? argument).bind fun n =>
    if n < UInt32.size then some (UInt32.ofNat n) else none

/-- The names of the properties, in order. -/
def Issuance.propertyNames : List String :=
  ["canFreeze", "canWipe", "canPause", "canChangeOwner", "canUpgrade", "canAddSpecialRoles"]

/-- Reads the payload of an issuance.  All properties have to be listed, by their names. -/
def Issuance.ofPayload? (data : Bytes) : Option Issuance :=
  match Payload.parts data with
  | head :: name :: ticker :: supply :: decimals :: rest =>
    if head = Utf8.encode "issue" then do
      let name ← Payload.name? name
      let ticker ← Payload.name? ticker
      let supply ← Payload.amount? supply
      let decimals ← decimals? decimals
      let properties ← Payload.properties? rest
      match properties.map Prod.snd with
      | [freeze, wipe, pause, changeOwner, upgrade, addSpecialRoles] =>
        if properties.map Prod.fst = propertyNames then
          some ⟨name, ticker, supply, decimals, freeze, wipe, pause, changeOwner, upgrade,
            addSpecialRoles⟩
        else none
      | _ => none
    else none
  | _ => none

/-- Reads the payload of an envelope of version two. -/
def RelayOrder.ofPayload? (data : Bytes) : Option RelayOrder :=
  match Payload.parts data with
  | [head, receiver, nonce, inner, signature] =>
    if head = Utf8.encode "relayedTxV2" then do
      let receiver ← Payload.address? receiver
      let nonce ← Payload.nonce? nonce
      let inner ← Payload.bytes? inner
      let signature ← (Payload.bytes? signature).bind Testimony.signature?
      some ⟨receiver, nonce, inner, signature⟩
    else none
  | _ => none

/-- The payload splits into just these parts, and they are read as the given order. -/
structure Orders {α : Type} (read? : Bytes → Option α) (data : Bytes) (parts : List String)
    (order : α) : Prop where
  parts : Payload.parts data = parts.map Utf8.encode
  read : read? data = some order

/-- A payload has one order. -/
theorem Orders.unique {α : Type} {read? : Bytes → Option α} {data data' : Bytes}
    {parts parts' : List String} {order order' : α} (h : Orders read? data parts order)
    (h' : Orders read? data' parts' order') (hdata : data = data') : order = order' := by
  have hread := h'.read
  rw [← hdata, h.read] at hread
  exact Option.some.inj hread

/-! ### Deployments -/

/-- Each permission has a bit of its own. -/
theorem Permissions.bytes_injective {m m' : Permissions} (h : m.bytes = m'.bytes) : m = m' := by
  have hall : ∀ a b c d a' b' c' d' : Bool,
      (Permissions.mk a b c d).bytes = (Permissions.mk a' b' c' d').bytes →
        (a, b, c, d) = (a', b', c', d') := by decide
  obtain ⟨a, b, c, d⟩ := m
  obtain ⟨a', b', c', d'⟩ := m'
  obtain ⟨rfl, rfl, rfl, rfl⟩ := by simpa using hall a b c d a' b' c' d' h
  rfl

theorem Draft.orders_deployment (fees : FeeSchedule) (sender : Address) (code : Bytes) (gas : Gas)
    (arguments : List Amount) (amount : Amount) (metadata : Permissions) :
    Orders DeploymentOrder.ofPayload?
      (deployment fees sender code gas arguments amount metadata).data
      (Hex.encode code :: machineArgument :: Hex.encode metadata.bytes ::
        arguments.map Payload.unsigned) ⟨code, metadata.bytes, arguments⟩ := by
  have hat : ∀ part ∈ Hex.encode code :: machineArgument :: Hex.encode metadata.bytes ::
      arguments.map Payload.unsigned, (0x40 : UInt8) ∉ Utf8.encode part := by
    simp only [List.forall_mem_cons]
    exact ⟨Payload.at_not_mem_hex _, by decide, Payload.at_not_mem_hex _,
      Payload.at_not_mem_amounts arguments⟩
  have hparts : Payload.parts (deployment fees sender code gas arguments amount metadata).data
      = (Hex.encode code :: machineArgument :: Hex.encode metadata.bytes ::
        arguments.map Payload.unsigned).map Utf8.encode := Payload.parts_join hat
  refine ⟨hparts, ?_⟩
  rw [DeploymentOrder.ofPayload?, hparts]
  simp only [List.map_cons, if_true, Payload.bytes?_hex, Payload.amounts?_unsigned,
    Option.bind_eq_bind, Option.bind_some]

/-! ### Calls -/

theorem Draft.orders_call (fees : FeeSchedule) (sender contract : Address) {function : String}
    (gas : Gas) (arguments : List Amount) (amount : Amount) (h : '@' ∉ function.toList) :
    Orders CallOrder.ofPayload? (call fees sender contract function gas arguments amount).data
      (function :: arguments.map Payload.unsigned) ⟨function, arguments⟩ := by
  have hat : ∀ part ∈ function :: arguments.map Payload.unsigned,
      (0x40 : UInt8) ∉ Utf8.encode part := by
    rw [List.forall_mem_cons]
    exact ⟨Payload.at_not_mem_text h, Payload.at_not_mem_amounts arguments⟩
  have hparts : Payload.parts (call fees sender contract function gas arguments amount).data
      = (function :: arguments.map Payload.unsigned).map Utf8.encode := Payload.parts_join hat
  refine ⟨hparts, ?_⟩
  rw [CallOrder.ofPayload?, hparts]
  simp only [List.map_cons, Utf8.decode?_encode, Payload.amounts?_unsigned, Option.bind_eq_bind,
    Option.bind_some]

/-! ### Issuances -/

theorem Issuance.decimals?_unsigned (n : UInt32) :
    decimals? (Utf8.encode (Payload.unsigned (BitVec.ofNat _ n.toNat))) = some n := by
  have hlt : n.toNat < 2 ^ 128 := Nat.lt_trans n.toNat_lt (by decide)
  rw [decimals?, Payload.natural?_unsigned, BitVec.toNat_ofNat, Nat.mod_eq_of_lt hlt,
    Option.bind_some, if_pos n.toNat_lt, UInt32.ofNat_toNat]

theorem Draft.orders_issuance (fees : FeeSchedule) (sender : Address) (i : Issuance) :
    Orders Issuance.ofPayload? (issuance fees sender i).data ("issue" :: i.arguments) i := by
  have hproperties : ∀ part ∈ i.properties.flatMap fun p => [Payload.name p.1, Payload.flag p.2],
      (0x40 : UInt8) ∉ Utf8.encode part := by
    intro part hpart
    obtain ⟨p, -, hp⟩ := List.mem_flatMap.1 hpart
    rcases (by simpa using hp : part = _ ∨ part = _) with rfl | rfl
    · exact Payload.at_not_mem_name p.1
    · exact Payload.at_not_mem_flag p.2
  have hat : ∀ part ∈ "issue" :: i.arguments, (0x40 : UInt8) ∉ Utf8.encode part := by
    simp only [Issuance.arguments, List.cons_append, List.nil_append, List.forall_mem_cons]
    exact ⟨by decide, Payload.at_not_mem_name _, Payload.at_not_mem_name _,
      Payload.at_not_mem_unsigned _, Payload.at_not_mem_unsigned _, hproperties⟩
  have hdata : (issuance fees sender i).data = Payload.join "issue" i.arguments := by rw [issuance]
  have hparts : Payload.parts (issuance fees sender i).data
      = ("issue" :: i.arguments).map Utf8.encode := by
    rw [hdata]
    exact Payload.parts_join hat
  refine ⟨hparts, ?_⟩
  have hnames : i.properties.map Prod.fst = Issuance.propertyNames := rfl
  have hflags : i.properties.map Prod.snd = [i.canFreeze, i.canWipe, i.canPause, i.canChangeOwner,
      i.canUpgrade, i.canAddSpecialRoles] := rfl
  rw [Issuance.ofPayload?, hparts]
  simp only [Issuance.arguments, List.cons_append, List.nil_append, List.map_cons, if_true,
    Payload.name?_name, Payload.amount?_unsigned, Issuance.decimals?_unsigned,
    Payload.properties?_arguments, Option.bind_eq_bind, Option.bind_some, hnames, hflags]

/-! ### Envelopes -/

/-- An envelope of version two is made around a transaction without gas, and around no other. -/
theorem Draft.orders_relayedV2 (fees : FeeSchedule) (inner : Signed) (gas : Gas)
    (relayer : Address) :
    match relayedV2 fees inner gas relayer with
    | .ok d => Orders RelayOrder.ofPayload? d.data
        ["relayedTxV2", inner.body.receiver.hex, Payload.unsigned64 inner.nonce,
          Hex.encode inner.body.data, inner.signature.hex]
        ⟨inner.body.receiver, inner.nonce, inner.body.data, inner.signature⟩
    | .error _ => inner.body.gasLimit ≠ 0 := by
  cases hr : relayedV2 fees inner gas relayer with
  | error e => exact (relayedV2_eq_error.1 hr).1
  | ok d =>
    obtain ⟨-, rfl⟩ := relayedV2_eq_ok.1 hr
    constructor
    · rw [envelope_data]
      exact Payload.parts_listed ..
    · rw [RelayOrder.ofPayload?, envelope_data, Signature.hex, Payload.parts_listed]
      simp only [List.map_cons, List.map_nil, if_true, Payload.address?_hex,
        Payload.nonce?_unsigned64, Payload.bytes?_hex, Testimony.signature?_bytes,
        Option.bind_eq_bind, Option.bind_some]

/-! ### One payload, one order -/

namespace Draft

variable {fees fees' : FeeSchedule} {sender sender' : Address} {gas gas' : Gas}
  {amount amount' : Amount} {arguments arguments' : List Amount}

theorem deployment_data_inj {code code' : Bytes} {metadata metadata' : Permissions}
    (h : (deployment fees sender code gas arguments amount metadata).data
      = (deployment fees' sender' code' gas' arguments' amount' metadata').data) :
    code = code' ∧ metadata = metadata' ∧ arguments = arguments' := by
  have hsame := (orders_deployment fees sender code gas arguments amount metadata).unique
    (orders_deployment fees' sender' code' gas' arguments' amount' metadata') h
  obtain ⟨hcode, hmetadata, harguments⟩ := DeploymentOrder.mk.inj hsame
  exact ⟨hcode, Permissions.bytes_injective hmetadata, harguments⟩

theorem call_data_inj {contract contract' : Address} {function function' : String}
    (hfunction : '@' ∉ function.toList) (hfunction' : '@' ∉ function'.toList)
    (h : (call fees sender contract function gas arguments amount).data
      = (call fees' sender' contract' function' gas' arguments' amount').data) :
    function = function' ∧ arguments = arguments' :=
  CallOrder.mk.inj ((orders_call fees sender contract gas arguments amount hfunction).unique
    (orders_call fees' sender' contract' gas' arguments' amount' hfunction') h)

theorem issuance_data_inj {i i' : Issuance}
    (h : (issuance fees sender i).data = (issuance fees' sender' i').data) : i = i' :=
  (orders_issuance fees sender i).unique (orders_issuance fees' sender' i') h

theorem relayedV2_data_inj {inner inner' : Signed} {relayer relayer' : Address} {d d' : Draft}
    (hd : relayedV2 fees inner gas relayer = .ok d)
    (hd' : relayedV2 fees' inner' gas' relayer' = .ok d') (h : d.data = d'.data) :
    inner.body.receiver = inner'.body.receiver ∧ inner.nonce = inner'.nonce ∧
      inner.body.data = inner'.body.data ∧ inner.signature = inner'.signature := by
  have horders := orders_relayedV2 fees inner gas relayer
  have horders' := orders_relayedV2 fees' inner' gas' relayer'
  rw [hd] at horders
  rw [hd'] at horders'
  exact RelayOrder.mk.inj (horders.unique horders' h)

end Draft

/-- **Payloads are read as what they order, and as nothing else.**  The payload of a deployment, of a
call to a function without an at sign in its name, of an issuance and of an envelope of version two
splits into its head and one part for each argument, also where some are empty.  Reading the parts
gives back the code, the metadata and the arguments; the function and the arguments; the token;
and the receiver, the nonce, the payload and the signature of the transaction inside.  So two
payloads of one kind are equal only if all of these are. -/
theorem payloads_read_uniquely :
    (∀ fees sender code gas arguments amount metadata,
      Orders DeploymentOrder.ofPayload?
        (Draft.deployment fees sender code gas arguments amount metadata).data
        (Hex.encode code :: Draft.machineArgument :: Hex.encode metadata.bytes ::
          arguments.map Payload.unsigned)
        ⟨code, metadata.bytes, arguments⟩) ∧
    (∀ fees sender contract function gas arguments amount, '@' ∉ function.toList →
      Orders CallOrder.ofPayload?
        (Draft.call fees sender contract function gas arguments amount).data
        (function :: arguments.map Payload.unsigned) ⟨function, arguments⟩) ∧
    (∀ fees sender i, Orders Issuance.ofPayload? (Draft.issuance fees sender i).data
      ("issue" :: i.arguments) i) ∧
    (∀ fees inner gas relayer,
      match Draft.relayedV2 fees inner gas relayer with
      | .ok d => Orders RelayOrder.ofPayload? d.data
          ["relayedTxV2", inner.body.receiver.hex, Payload.unsigned64 inner.nonce,
            Hex.encode inner.body.data, inner.signature.hex]
          ⟨inner.body.receiver, inner.nonce, inner.body.data, inner.signature⟩
      | .error _ => inner.body.gasLimit ≠ 0) ∧
    (∀ fees fees' sender sender' code code' gas gas' arguments arguments' amount amount' metadata
        metadata',
      (Draft.deployment fees sender code gas arguments amount metadata).data
          = (Draft.deployment fees' sender' code' gas' arguments' amount' metadata').data →
        code = code' ∧ metadata = metadata' ∧ arguments = arguments') ∧
    (∀ fees fees' sender sender' contract contract' function function' gas gas' arguments arguments'
        amount amount', '@' ∉ function.toList → '@' ∉ function'.toList →
      (Draft.call fees sender contract function gas arguments amount).data
          = (Draft.call fees' sender' contract' function' gas' arguments' amount').data →
        function = function' ∧ arguments = arguments') ∧
    (∀ fees fees' sender sender' i i',
      (Draft.issuance fees sender i).data = (Draft.issuance fees' sender' i').data → i = i') ∧
    ∀ fees fees' inner inner' gas gas' relayer relayer' d d',
      Draft.relayedV2 fees inner gas relayer = .ok d →
      Draft.relayedV2 fees' inner' gas' relayer' = .ok d' → d.data = d'.data →
        inner.body.receiver = inner'.body.receiver ∧ inner.nonce = inner'.nonce ∧
          inner.body.data = inner'.body.data ∧ inner.signature = inner'.signature := by
  refine ⟨Draft.orders_deployment, ?_, Draft.orders_issuance, Draft.orders_relayedV2, ?_, ?_, ?_, ?_⟩
  · intro fees sender contract function gas arguments amount h
    exact Draft.orders_call fees sender contract gas arguments amount h
  · intros
    exact Draft.deployment_data_inj ‹_›
  · intro _ _ _ _ _ _ _ _ _ _ _ _ _ _ hfunction hfunction' h
    exact Draft.call_data_inj hfunction hfunction' h
  · intros
    exact Draft.issuance_data_inj ‹_›
  · intro _ _ _ _ _ _ _ _ _ _ hd hd' h
    exact Draft.relayedV2_data_inj hd hd' h

/-- A deployment without code and without arguments, and a call whose function has no name. -/
example : Payload.parts (Payload.join "" ["0500", "0500"]) = ["", "0500", "0500"].map Utf8.encode ∧
    CallOrder.ofPayload? (Payload.join "" ["00"]) = some ⟨"", [0]⟩ := by decide +kernel

end ShardClient
