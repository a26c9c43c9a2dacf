/-
Transactions, from draft to signature.

A draft says what is to happen; it becomes a numbered transaction when its sender's nonce is
assigned, and a signed one when the owner of the sender's address signs it.  Signed
transactions can be carried inside another one, to any depth.

Nothing changes on the way: a signed transaction consists of the draft, the nonce and the
signature, so the signature covers the very fields that are sent.
-/
import ShardClient.Gas
import ShardClient.Signature.Scheme

namespace ShardClient

/-- The fields of a transaction that hold no other transaction. -/
structure Body where
  sender : Address
  receiver : Address
  value : Amount := 0
  gasPrice : UInt64 := 0
  gasLimit : Gas := 0
  data : Bytes := []
  chainId : String
  version : UInt32 := 2
  options : UInt32 := 0
  /-- The account that pays, for a transaction carried by that account's envelope. -/
  relayer : Option Address := none
  deriving DecidableEq

/-- A transaction with its nonce and signature. -/
structure Signed where
  nonce : UInt64
  body : Body
  inner : List Signed
  signature : Signature

/-- A transaction under construction. -/
structure Draft extends Body where
  inner : List Signed := []

/-- A transaction with its nonce, yet to be signed. -/
structure Numbered where
  nonce : UInt64
  draft : Draft

/-- The transaction with the given nonce. -/
def Draft.number (d : Draft) (nonce : UInt64) : Numbered := ⟨nonce, d⟩

/-- The draft of an otherwise empty transaction on the chain of the given fees. -/
def Draft.blank (fees : FeeSchedule) (sender receiver : Address) : Draft :=
  { sender := sender, receiver := receiver, chainId := fees.chainId }

namespace Signed

mutual

/-- Whether two transactions are equal. -/
def decEq : (t u : Signed) → Decidable (t = u)
  | ⟨n, b, i, s⟩, ⟨n', b', i', s'⟩ =>
    if h : n = n' ∧ b = b' ∧ s = s' then
      match decEqList i i' with
      | isTrue hi => isTrue (by simp [h, hi])
      | isFalse hi => isFalse (by simp [hi])
    else isFalse (by simp only [mk.injEq]; exact fun e => h ⟨e.1, e.2.1, e.2.2.2⟩)

/-- Whether two lists of transactions are equal. -/
def decEqList : (ts us : List Signed) → Decidable (ts = us)
  | [], [] => isTrue rfl
  | [], _ :: _ => isFalse (by simp)
  | _ :: _, [] => isFalse (by simp)
  | t :: ts, u :: us =>
    match decEq t u with
    | isFalse h => isFalse (by simp [h])
    | isTrue h =>
      match decEqList ts us with
      | isTrue hs => isTrue (by simp [h, hs])
      | isFalse hs => isFalse (by simp [hs])

end

instance : DecidableEq Signed := decEq

/-- The account that sends the transaction. -/
def sender (t : Signed) : Address := t.body.sender

/-- The transaction before it was signed. -/
def unsigned (t : Signed) : Numbered := ⟨t.nonce, { toBody := t.body, inner := t.inner }⟩

end Signed

deriving instance DecidableEq for Draft
deriving instance DecidableEq for Numbered

/-- The account that sends the transaction. -/
def Numbered.sender (t : Numbered) : Address := t.draft.sender

/-- A transaction was handed to a signer that does not own its sender. -/
structure SignerMismatch where
  signer : Address
  sender : Address
  deriving DecidableEq

/-- The wording of the error. -/
def SignerMismatch.message (e : SignerMismatch) : String :=
  "signer " ++ e.signer.text ++ " cannot sign for sender " ++ e.sender.text

end ShardClient
