/-
What a transfer moves.

A transfer has three shapes.  Without a payload it moves its value to its receiver; with one it
moves tokens, either a single fungible one to its receiver, or any number of entries to an
address that the payload names, in which case the transaction goes to its own sender.  Here a
draft is read without knowledge of how it was made.  What is read from a transfer is what it was
asked to move, in order, and to whom: the shape only depends on what there is to move.
-/
import ShardClient.Proofs.Transaction.Carried

namespace ShardClient

/-! ### Reading arguments -/

namespace Payload

/-- The number that an argument spells. -/
def natural? (argument : Bytes) : Option Nat := (Hex.decode argument).toOption.map Bytes.toNatBE

/-- The amount that an argument spells, if it is not too great. -/
def amount? (argument : Bytes) : Option Amount :=
  (natural? argument).bind fun n => if n < amountBound then some (BitVec.ofNat _ n) else none

/-- The nonce that an argument spells, if it is not too great. -/
def nonce? (argument : Bytes) : Option UInt64 :=
  (natural? argument).bind fun n => if n < UInt64.size then some (UInt64.ofNat n) else none

/-- The name that an argument spells. -/
def name? (argument : Bytes) : Option String := (Hex.decode argument).toOption.bind Utf8.decode?

/-- The address that an argument spells. -/
def address? (argument : Bytes) : Option Address :=
  (Hex.decode argument).toOption.bind fun bytes => (Address.ofBytes bytes).toOption

theorem natural?_unsigned (n : Amount) : natural? (Utf8.encode (unsigned n)) = some n.toNat := by
  obtain ⟨bs, hhex, hbs, -⟩ := unsigned_eq n
  rw [natural?, hhex, Hex.decode_encode, Except.toOption, Option.map_some, hbs]

theorem amount?_unsigned (n : Amount) : amount? (Utf8.encode (unsigned n)) = some n := by
  rw [amount?, natural?_unsigned, Option.bind_some, if_pos n.isLt, BitVec.ofNat_toNat,
    BitVec.setWidth_eq]

theorem nonce?_unsigned64 (n : UInt64) : nonce? (Utf8.encode (unsigned64 n)) = some n := by
  obtain ⟨bs, hhex, hbs⟩ := unsigned64_eq n
  rw [nonce?, natural?, hhex, Hex.decode_encode, Except.toOption, Option.map_some, hbs,
    Option.bind_some, if_pos n.toNat_lt, UInt64.ofNat_toNat]

theorem name?_name (s : String) : name? (Utf8.encode (name s)) = some s := by
  rw [name?, name, Hex.decode_encode, Except.toOption, Option.bind_some, Utf8.decode?_encode]

theorem address?_hex (a : Address) : address? (Utf8.encode a.hex) = some a := by
  rw [address?, Address.hex, Hex.decode_encode, Except.toOption, Option.bind_some,
    Address.ofBytes_bytes]
  rfl

/-- Numbers are digits, and digits are no at signs. -/
theorem at_not_mem_unsigned (n : Amount) : (0x40 : UInt8) ∉ Utf8.encode (unsigned n) := by
  obtain ⟨bs, hhex, -⟩ := unsigned_eq n
  rw [hhex]
  exact at_not_mem_hex bs

theorem join_ne_nil {head : String} (arguments : List String) (h : Utf8.encode head ≠ []) :
    join head arguments ≠ [] := by
  rw [join, encode_text]
  exact List.append_ne_nil_of_left_ne_nil h _

end Payload

/-! ### Reading drafts -/

/-- What a draft moves: what it sends along in its value, and tokens, to a receiver. -/
structure Moved where
  receiver : Address
  value : Amount
  tokens : List TokenTransfer
  deriving DecidableEq

namespace Moved

/-- The entries that arguments list, three for each. -/
def entries? : List Bytes → Option (List TokenTransfer)
  | [] => some []
  | identifier :: nonce :: amount :: rest => do
    let identifier ← Payload.name? identifier
    let nonce ← Payload.nonce? nonce
    let amount ← Payload.amount? amount
    let entries ← entries? rest
    some (⟨⟨identifier, nonce⟩, amount⟩ :: entries)
  | _ => none

/-- A draft that moves one fungible token, which goes to the receiver of the draft. -/
def ofSingle? (d : Draft) : List Bytes → Option Moved
  | [identifier, amount] => do
    let identifier ← Payload.name? identifier
    let amount ← Payload.amount? amount
    some ⟨d.receiver, d.value, [⟨⟨identifier, 0⟩, amount⟩]⟩
  | _ => none

/-- A draft that moves a number of entries, which go to the receiver that the payload names.  It
has to go to its own sender. -/
def ofBundle? (d : Draft) : List Bytes → Option Moved
  | receiver :: count :: arguments =>
    if d.receiver = d.sender then do
      let receiver ← Payload.address? receiver
      let count ← Payload.amount? count
      let entries ← entries? arguments
      if BitVec.ofNat _ entries.length = count then some ⟨receiver, d.value, entries⟩ else none
    else none
  | _ => none

/-- A draft with a payload, by the head of the payload. -/
def ofParts? (d : Draft) (head : Bytes) (arguments : List Bytes) : Option Moved :=
  if head = Utf8.encode "ESDTTransfer" then ofSingle? d arguments
  else if head = Utf8.encode "MultiESDTNFTTransfer" then ofBundle? d arguments
  else none

/-- What the draft moves. -/
def ofDraft? (d : Draft) : Option Moved :=
  if d.data = [] then some ⟨d.receiver, d.value, []⟩
  else
    match Payload.parts d.data with
    | [] => none
    | head :: arguments => ofParts? d head arguments

end Moved

@[simp] theorem Draft.carrying_data (fees : FeeSchedule) (sender receiver : Address) (data : Bytes)
    (extra : Gas) : (carrying fees sender receiver data extra).data = data := rfl

theorem Draft.carrying_self (fees : FeeSchedule) (sender : Address) (data : Bytes) (extra : Gas) :
    (carrying fees sender sender data extra).receiver
      = (carrying fees sender sender data extra).sender := rfl

namespace Moved

/-! ### What is written is read -/

theorem entries?_arguments (ts : List TokenTransfer) :
    entries? ((ts.flatMap Draft.entryArguments).map Utf8.encode) = some ts := by
  induction ts with
  | nil => rfl
  | cons t ts ih =>
    rw [List.flatMap_cons, Draft.entryArguments]
    simp only [List.cons_append, List.nil_append, List.map_cons, entries?, Payload.name?_name,
      Payload.nonce?_unsigned64, Payload.amount?_unsigned, ih, Option.bind_eq_bind,
      Option.bind_some]

/-- No argument of an entry has an at sign. -/
theorem at_not_mem_entryArguments (ts : List TokenTransfer) :
    ∀ a ∈ ts.flatMap Draft.entryArguments, (0x40 : UInt8) ∉ Utf8.encode a := by
  intro a ha
  obtain ⟨t, -, ht⟩ := List.mem_flatMap.1 ha
  have hentry : ∀ a ∈ Draft.entryArguments t, (0x40 : UInt8) ∉ Utf8.encode a := by
    simp only [Draft.entryArguments, List.forall_mem_cons]
    exact ⟨Payload.at_not_mem_hex _, Payload.at_not_mem_unsigned _, Payload.at_not_mem_unsigned _,
      by simp⟩
  exact hentry a ht

/-- A draft whose payload has a head is read by its head. -/
theorem ofDraft?_join {d : Draft} (head : String) (arguments : List String)
    (hdata : d.data = Payload.join head arguments) (hhead : Utf8.encode head ≠ [])
    (hat : ∀ part ∈ head :: arguments, (0x40 : UInt8) ∉ Utf8.encode part) :
    ofDraft? d = ofParts? d (Utf8.encode head) (arguments.map Utf8.encode) := by
  rw [ofDraft?, hdata, if_neg (Payload.join_ne_nil arguments hhead), Payload.parts_join hat,
    List.map_cons]

theorem ofParts?_single (d : Draft) (arguments : List Bytes) :
    ofParts? d (Utf8.encode "ESDTTransfer") arguments = ofSingle? d arguments :=
  if_pos rfl

theorem ofParts?_bundle (d : Draft) (arguments : List Bytes) :
    ofParts? d (Utf8.encode "MultiESDTNFTTransfer") arguments = ofBundle? d arguments :=
  (if_neg (by decide)).trans (if_pos rfl)

/-! ### Transfers -/

theorem ofDraft?_nativeTransfer (fees : FeeSchedule) (sender receiver : Address) (amount : Amount) :
    ofDraft? (Draft.nativeTransfer fees sender receiver amount) = some ⟨receiver, amount, []⟩ :=
  if_pos rfl

theorem ofDraft?_single (fees : FeeSchedule) (sender receiver : Address) (identifier : String)
    (amount : Amount) (gas : Gas) :
    ofDraft? (Draft.carrying fees sender receiver (Payload.join "ESDTTransfer"
      [Payload.name identifier, Payload.unsigned amount]) gas)
      = some ⟨receiver, 0, [⟨⟨identifier, 0⟩, amount⟩]⟩ := by
  have hat : ∀ part ∈ ["ESDTTransfer", Payload.name identifier, Payload.unsigned amount],
      (0x40 : UInt8) ∉ Utf8.encode part := by
    simp only [List.forall_mem_cons]
    exact ⟨by decide, Payload.at_not_mem_hex _, Payload.at_not_mem_unsigned _, by simp⟩
  rw [ofDraft?_join "ESDTTransfer" _ (Draft.carrying_data ..) (by decide) hat, ofParts?_single,
    List.map_cons, List.map_cons, List.map_nil, ofSingle?, Payload.name?_name,
    Payload.amount?_unsigned]
  rfl

theorem ofDraft?_bundleTransfer (fees : FeeSchedule) (sender receiver : Address)
    (ts : List TokenTransfer) :
    ofDraft? (Draft.bundleTransfer fees sender receiver ts) = some ⟨receiver, 0, ts⟩ := by
  have hat : ∀ part ∈ "MultiESDTNFTTransfer" :: receiver.hex ::
      Payload.unsigned (BitVec.ofNat _ ts.length) :: ts.flatMap Draft.entryArguments,
      (0x40 : UInt8) ∉ Utf8.encode part := by
    simp only [List.forall_mem_cons]
    exact ⟨by decide, Payload.at_not_mem_hex _, Payload.at_not_mem_unsigned _,
      at_not_mem_entryArguments ts⟩
  unfold Draft.bundleTransfer
  rw [ofDraft?_join "MultiESDTNFTTransfer" _ (Draft.carrying_data ..) (by decide) hat,
    ofParts?_bundle, List.map_cons, List.map_cons, ofBundle?, if_pos (Draft.carrying_self ..),
    Payload.address?_hex, Payload.amount?_unsigned, entries?_arguments]
  simp only [Option.bind_eq_bind, Option.bind_some, if_true]
  rfl

theorem ofDraft?_tokenTransfer (fees : FeeSchedule) (sender receiver : Address)
    (ts : List TokenTransfer) :
    ofDraft? (Draft.tokenTransfer fees sender receiver ts) = some ⟨receiver, 0, ts⟩ := by
  unfold Draft.tokenTransfer
  split
  · next single =>
    split
    · next hfungible =>
      obtain ⟨⟨identifier, nonce⟩, amount⟩ := single
      obtain rfl : nonce = 0 := hfungible
      exact ofDraft?_single fees sender receiver identifier amount _
    · exact ofDraft?_bundleTransfer fees sender receiver _
  · exact ofDraft?_bundleTransfer fees sender receiver _

end Moved

theorem Draft.sender_tokenTransfer (fees : FeeSchedule) (sender receiver : Address)
    (ts : List TokenTransfer) :
    (tokenTransfer fees sender receiver ts).sender = sender ∧
      (tokenTransfer fees sender receiver ts).value = 0 := by
  unfold tokenTransfer
  split
  · split
    · exact ⟨rfl, rfl⟩
    · exact ⟨rfl, rfl⟩
  · exact ⟨rfl, rfl⟩

/-- The entry for a native amount beside tokens: there is none if there is no amount, or nothing
that it would stand beside. -/
def nativeEntry (amount : Amount) (ts : List TokenTransfer) : List TokenTransfer :=
  if amount ≠ 0 ∧ ts ≠ [] then [⟨⟨nativeIdentifier, 0⟩, amount⟩] else []

/-- A transfer of a native amount and of tokens, whichever shape it has. -/
theorem Moved.ofDraft?_transfer (fees : FeeSchedule) (sender receiver : Address) (amount : Amount)
    (ts : List TokenTransfer) :
    ofDraft? (Draft.transfer fees sender receiver amount ts)
        = some ⟨receiver, if ts = [] then amount else 0, ts ++ nativeEntry amount ts⟩ ∧
      (Draft.transfer fees sender receiver amount ts).sender = sender ∧
      (Draft.transfer fees sender receiver amount ts).value = if ts = [] then amount else 0 := by
  unfold Draft.transfer nativeEntry
  by_cases hnone : ts = []
  · subst hnone
    rw [if_pos List.isEmpty_nil, if_pos rfl, if_neg (by simp)]
    exact ⟨ofDraft?_nativeTransfer fees sender receiver amount, rfl, rfl⟩
  rw [if_neg (by simpa using hnone), if_neg hnone]
  by_cases hzero : amount = 0
  · rw [if_pos hzero, if_neg (by simp [hzero]), List.append_nil]
    exact ⟨ofDraft?_tokenTransfer fees sender receiver ts,
      Draft.sender_tokenTransfer fees sender receiver ts⟩
  · rw [if_neg hzero, if_pos ⟨hzero, hnone⟩]
    exact ⟨ofDraft?_bundleTransfer fees sender receiver _, rfl, rfl⟩

/-- **Transfers move what they are asked to.**  A transfer is read as going to its receiver with
exactly its tokens, in order; the native amount is in the value if there are no tokens, and else
in one more entry behind them, unless it is zero.  A transfer of tokens alone is read in the same
way, without a native amount. -/
theorem transfers_move (fees : FeeSchedule) (sender receiver : Address) (amount : Amount)
    (ts : List TokenTransfer) :
    Moved.ofDraft? (Draft.transfer fees sender receiver amount ts)
        = some ⟨receiver, if ts = [] then amount else 0, ts ++ nativeEntry amount ts⟩ ∧
      (Draft.transfer fees sender receiver amount ts).sender = sender ∧
      (Draft.transfer fees sender receiver amount ts).value = (if ts = [] then amount else 0) ∧
      Moved.ofDraft? (Draft.tokenTransfer fees sender receiver ts) = some ⟨receiver, 0, ts⟩ ∧
      (Draft.tokenTransfer fees sender receiver ts).sender = sender ∧
      (Draft.tokenTransfer fees sender receiver ts).value = 0 := by
  obtain ⟨hread, hsender, hvalue⟩ := Moved.ofDraft?_transfer fees sender receiver amount ts
  obtain ⟨hsender', hvalue'⟩ := Draft.sender_tokenTransfer fees sender receiver ts
  exact ⟨hread, hsender, hvalue, Moved.ofDraft?_tokenTransfer fees sender receiver ts, hsender',
    hvalue'⟩

end ShardClient
