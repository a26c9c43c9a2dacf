/-
Reading the canonical form of transactions.

`WireForm.ofJson?` reads one level of the form: everything that a transaction says of itself,
with the transactions inside it left as they stand.  The main statement is that it finds every
field again, whichever of the optional members are left out: all names are known and differ, so
each field is looked up on its own, and each codec gives back what it was given.
-/
import ShardClient.Proofs.Codec.Base58
import ShardClient.Proofs.Codec.Base64
import ShardClient.Proofs.Json.RoundTrip
import ShardClient.Transaction.Wire

namespace ShardClient

/-! ### Texts of the fields -/

/-- The signature that a text spells in hexadecimal. -/
def Signature.ofText? (s : String) : Option Signature :=
  match Hex.decode (Utf8.encode s) with
  | .ok bytes => if h : bytes.length = 64 then some ⟨⟨bytes, h⟩⟩ else none
  | .error _ => none

theorem Signature.ofText?_hex (s : Signature) : ofText? s.hex = some s := by
  unfold ofText? hex
  rw [Hex.decode_encode]
  exact dif_pos s.length_eq

namespace Json

/-! ### Records -/

/-- If every member is known and none comes twice, all are collected. -/
theorem collect?_eq {names : List String} {members : List (String × Json)}
    (known : ∀ m ∈ members, m.1 ∈ names) (nodup : (members.map (·.1)).Nodup) :
    collect? names members = some members := by
  induction members with
  | nil => rfl
  | cons m members ih =>
    obtain ⟨name, v⟩ := m
    rw [List.map_cons, List.nodup_cons] at nodup
    have hnew : name ∉ members.map (·.1) := nodup.1
    have hlookup : members.lookup name = none := by
      rw [List.lookup_eq_none_iff]
      intro p hp
      rw [bne_iff_ne]
      rintro rfl
      exact hnew (List.mem_map_of_mem hp)
    have hname : names.contains name = true := by
      rw [List.contains_iff_mem]
      exact known (name, v) List.mem_cons_self
    rw [collect?, ih (fun m hm => known m (List.mem_cons_of_mem _ hm)) nodup.2]
    simp only [Option.bind_eq_bind, Option.bind_some, if_pos hname, hlookup]
    rfl

theorem members?_ofMembers (members : List (String × Json)) :
    members? (ofMembers members) = some members := by
  rw [ofMembers, members?]
  induction members with
  | nil => rfl
  | cons m members ih => simp [List.mapM_cons, unspell?_spell, ih]

/-- A record is read as its members, if they are fields and none comes twice. -/
theorem fields?_ofMembers {names : List String} {members : List (String × Json)}
    (h : (members.map (·.1)).Sublist names) (nodup : names.Nodup) :
    fields? names (ofMembers members) = some ⟨members, false⟩ := by
  have hcollect : collect? names members = some members :=
    collect?_eq (fun m hm => h.subset (List.mem_map_of_mem hm)) (h.nodup nodup)
  have hmembers := members?_ofMembers members
  rw [ofMembers] at hmembers ⊢
  simp only [fields?, hmembers, Option.bind_eq_bind, Option.bind_some, hcollect]

end Json

/-! ### The form of a transaction -/

/-- What a transaction says of itself, with the transactions inside it as they stand. -/
structure WireForm where
  nonce : UInt64
  body : Body
  inner : List Json
  signature : Option Signature

namespace WireForm

/-- The names of the members, in order. -/
def names : List String :=
  ["nonce", "value", "receiver", "sender", "gasPrice", "gasLimit", "data", "chainID", "version",
    "options", "relayer", "innerTransactions", "signature"]

def address? (v : Json) : Option Address :=
  v.text?.bind fun text => (Address.ofText text).toOption

def amount? (v : Json) : Option Amount :=
  v.text?.bind fun text => (Decimal.ofText amountBound text).toOption.map (BitVec.ofNat _)

def data? (v : Json) : Option Bytes := v.text?.bind Base64.decode?

def signature? (v : Json) : Option Signature := v.text?.bind Signature.ofText?

def word64? (v : Json) : Option UInt64 := (Json.nat? UInt64.size v).map UInt64.ofNat

def word32? (v : Json) : Option UInt32 := (Json.nat? UInt32.size v).map UInt32.ofNat

/-- Reads one level of a transaction. -/
def ofJson? (v : Json) : Option WireForm := do
  let f ← v.fields? names
  let nonce ← f.required? "nonce" word64?
  let value ← f.required? "value" amount?
  let receiver ← f.required? "receiver" address?
  let sender ← f.required? "sender" address?
  let gasPrice ← f.required? "gasPrice" word64?
  let gasLimit ← f.required? "gasLimit" word64?
  let data ← f.defaulted? "data" [] data?
  let chainId ← f.required? "chainID" Json.text?
  let version ← f.required? "version" word32?
  let options ← f.defaulted? "options" 0 word32?
  let relayer ← f.optional? "relayer" address?
  let inner ← f.defaulted? "innerTransactions" [] (Json.list? some)
  let signature ← f.optional? "signature" signature?
  some
    { nonce := nonce
      body :=
        { sender := sender, receiver := receiver, value := value, gasPrice := gasPrice,
          gasLimit := gasLimit, data := data, chainId := chainId, version := version,
          options := options, relayer := relayer }
      inner := inner
      signature := signature }

/-- The members of a form, which are those of the body and the signature. -/
def members (w : WireForm) : List (String × Json) :=
  w.body.members w.nonce w.inner ++
    w.signature.elim [] fun s => [("signature", .ofText s.hex)]

theorem address?_text (a : Address) : address? (.ofText a.text) = some a := by
  rw [address?, Json.text?_ofText, Option.bind_some, Address.ofText_text]
  rfl

theorem amount?_text (v : Amount) : amount? (.ofText (Decimal.text v.toNat)) = some v := by
  rw [amount?, Json.text?_ofText, Option.bind_some, Decimal.ofText_text v.isLt, Except.toOption,
    Option.map_some]
  simp

theorem data?_text (bs : Bytes) : data? (.ofText (Base64.encode bs)) = some bs := by
  rw [data?, Json.text?_ofText, Option.bind_some, Base64.decode?_encode]

theorem signature?_text (s : Signature) : signature? (.ofText s.hex) = some s := by
  rw [signature?, Json.text?_ofText, Option.bind_some, Signature.ofText?_hex]

theorem word64?_ofNat (n : UInt64) : word64? (.ofNat n.toNat) = some n := by
  rw [word64?, Json.nat?_ofNat n.toNat_lt_size, Option.map_some, UInt64.ofNat_toNat]

theorem word32?_ofNat (n : UInt32) : word32? (.ofNat n.toNat) = some n := by
  rw [word32?, Json.nat?_ofNat n.toNat_lt_size, Option.map_some, UInt32.ofNat_toNat]

theorem list?_some (items : List Json) : Json.list? some (.array items) = some items := by
  rw [Json.list?]
  induction items with
  | nil => rfl
  | cons item items ih => simp [List.mapM_cons, ih]

/-! ### Looking a member up -/

theorem map_memberIf_sublist (present : Bool) (name : String) (value : Json) :
    ((memberIf present name value).map (·.1)).Sublist [name] := by
  unfold memberIf
  split
  · exact .refl _
  · exact List.nil_sublist _

theorem map_elim_sublist {α : Type} (o : Option α) (name : String) (value : α → Json) :
    ((o.elim [] fun a => [(name, value a)]).map (·.1)).Sublist [name] := by
  cases o with
  | none => exact List.nil_sublist _
  | some a => exact .refl _

/-- The members come in the order of their names. -/
theorem members_sublist (w : WireForm) : (w.members.map (·.1)).Sublist names := by
  have hnames : names = ["nonce", "value", "receiver", "sender", "gasPrice", "gasLimit"] ++
      (["data"] ++ (["chainID", "version"] ++ (["options"] ++ (["relayer"] ++
        (["innerTransactions"] ++ ["signature"]))))) := rfl
  rw [hnames]
  simp only [members, Body.members, List.map_append, List.append_assoc]
  refine .append (.refl _) (.append (map_memberIf_sublist _ _ _) ?_)
  refine .append (.refl _) (.append (map_memberIf_sublist _ _ _) ?_)
  refine .append (map_elim_sublist _ _ _) (.append (map_memberIf_sublist _ _ _) ?_)
  exact map_elim_sublist _ _ _

theorem lookup_memberIf (present : Bool) (name key : String) (value : Json) :
    (memberIf present name value).lookup key
      = if key = name then (if present = true then some value else none) else none := by
  unfold memberIf
  cases present <;> by_cases h : key = name <;> simp [List.lookup_cons, h, beq_false_of_ne]

theorem lookup_elim {α : Type} (o : Option α) (name key : String) (value : α → Json) :
    (o.elim [] fun a => [(name, value a)]).lookup key
      = if key = name then o.map value else none := by
  cases o <;> by_cases h : key = name <;> simp [List.lookup_cons, h, beq_false_of_ne]

/-- What is found under each name. -/
structure Lookups (w : WireForm) : Prop where
  nonce : w.members.lookup "nonce" = some (.ofNat w.nonce.toNat)
  value : w.members.lookup "value" = some (.ofText (Decimal.text w.body.value.toNat))
  receiver : w.members.lookup "receiver" = some (.ofText w.body.receiver.text)
  sender : w.members.lookup "sender" = some (.ofText w.body.sender.text)
  gasPrice : w.members.lookup "gasPrice" = some (.ofNat w.body.gasPrice.toNat)
  gasLimit : w.members.lookup "gasLimit" = some (.ofNat w.body.gasLimit.toNat)
  data : w.members.lookup "data" =
    if (!w.body.data.isEmpty) = true then some (.ofText (Base64.encode w.body.data)) else none
  chainId : w.members.lookup "chainID" = some (.ofText w.body.chainId)
  version : w.members.lookup "version" = some (.ofNat w.body.version.toNat)
  options : w.members.lookup "options" =
    if (w.body.options != 0) = true then some (.ofNat w.body.options.toNat) else none
  relayer : w.members.lookup "relayer" = w.body.relayer.map fun a => .ofText a.text
  inner : w.members.lookup "innerTransactions" =
    if (!w.inner.isEmpty) = true then some (.array w.inner) else none
  signature : w.members.lookup "signature" = w.signature.map fun s => .ofText s.hex

theorem lookups (w : WireForm) : Lookups w := by
  constructor <;>
    simp only [members, Body.members, List.lookup_append, List.lookup_cons, List.lookup_nil,
      lookup_memberIf, lookup_elim, String.reduceBEq, String.reduceEq, reduceIte, Option.none_or,
      Option.or_none]

theorem required?_eq {f : Json.Fields} {name : String} {v : Json} {α : Type} {read : Json → Option α}
    {a : α} (h : f.given.lookup name = some v) (hread : read v = some a) :
    f.required? name read = some a := by
  rw [Json.Fields.required?, h, Option.bind_some, hread]

theorem defaulted?_eq {f : Json.Fields} {name : String} {present : Bool} {v : Json} {α : Type}
    {read : Json → Option α} {default a : α}
    (h : f.given.lookup name = if present = true then some v else none) (hread : read v = some a)
    (habsent : present = false → default = a) : f.defaulted? name default read = some a := by
  rw [Json.Fields.defaulted?, h]
  cases present with
  | true => exact hread
  | false => exact congrArg some (habsent rfl)

theorem optional?_eq {f : Json.Fields} {name : String} {α : Type} {o : Option α} {value : α → Json}
    {read : Json → Option α} (hname : f.byPosition = false)
    (h : f.given.lookup name = o.map value) (hread : ∀ a, read (value a) = some a)
    (hnull : ∀ a, value a ≠ .null) : f.optional? name read = some o := by
  rw [Json.Fields.optional?, h]
  cases o with
  | none =>
    show (if f.byPosition then none else some none) = some none
    rw [hname]
    rfl
  | some a =>
    show Json.nullable? read (value a) = some (some a)
    rw [Json.nullable?, hread]
    · rfl
    · exact hnull a

theorem bind_eq {α β : Type} {o : Option α} {a : α} {k : α → Option β} (h : o = some a) :
    (o >>= k) = k a := by
  rw [h]
  rfl

theorem nil_of_absent {α : Type} {l : List α} (h : (!l.isEmpty) = false) : [] = l := by
  cases l with
  | nil => rfl
  | cons a l => simp at h

theorem zero_of_absent {n : UInt32} (h : (n != 0) = false) : 0 = n := by
  rw [bne_eq_false_iff_eq] at h
  exact h.symm

/-- **One level of a transaction is found again in its form.** -/
theorem ofJson?_members (w : WireForm) : ofJson? (.ofMembers w.members) = some w := by
  have look := lookups w
  have nonce := required?_eq (f := ⟨w.members, false⟩) look.nonce (word64?_ofNat _)
  have value := required?_eq (f := ⟨w.members, false⟩) look.value (amount?_text _)
  have receiver := required?_eq (f := ⟨w.members, false⟩) look.receiver (address?_text _)
  have sender := required?_eq (f := ⟨w.members, false⟩) look.sender (address?_text _)
  have gasPrice := required?_eq (f := ⟨w.members, false⟩) look.gasPrice (word64?_ofNat _)
  have gasLimit := required?_eq (f := ⟨w.members, false⟩) look.gasLimit (word64?_ofNat _)
  have data := defaulted?_eq (f := ⟨w.members, false⟩) look.data (data?_text _) nil_of_absent
  have chainId := required?_eq (f := ⟨w.members, false⟩) look.chainId (Json.text?_ofText _)
  have version := required?_eq (f := ⟨w.members, false⟩) look.version (word32?_ofNat _)
  have options :=
    defaulted?_eq (f := ⟨w.members, false⟩) look.options (word32?_ofNat _) zero_of_absent
  have relayer := optional?_eq (f := ⟨w.members, false⟩) rfl look.relayer address?_text
    (by simp [Json.ofText])
  have inner := defaulted?_eq (f := ⟨w.members, false⟩) look.inner (list?_some _) nil_of_absent
  have signature := optional?_eq (f := ⟨w.members, false⟩) rfl look.signature signature?_text
    (by simp [Json.ofText])
  have fields := Json.fields?_ofMembers (members_sublist w) (by decide)
  rw [ofJson?, bind_eq fields, bind_eq nonce, bind_eq value, bind_eq receiver, bind_eq sender,
    bind_eq gasPrice, bind_eq gasLimit, bind_eq data, bind_eq chainId, bind_eq version,
    bind_eq options, bind_eq relayer, bind_eq inner, bind_eq signature]

end WireForm

end ShardClient
