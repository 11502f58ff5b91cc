import SolMesh.Model.Demo
import SolMesh.Proofs.ClientCompleteness
import SolMesh.Support.FlatJson

namespace SolMesh.Demo
open Client FlatJson

/-- `BigInt.toString`. -/
def decimal (v : Int) : String :=
  toString v

def hexDigits (bs : List UInt8) : List Char :=
  bs.flatMap fun b => [Nat.digitChar (b.toNat / 16), Nat.digitChar (b.toNat % 16)]

def hexValue (c : Char) : Option Nat :=
  (List.range 16).find? fun n => Nat.digitChar n = c.toLower

/-- `Buffer.from(…, "hex")` stops where the digits end. -/
def ofHexDigits : List Char → List UInt8
  | c :: d :: rest =>
    match hexValue c, hexValue d with
    | some hi, some lo => UInt8.ofNat (16 * hi + lo) :: ofHexDigits rest
    | _, _ => []
  | _ => []

def hex (bs : List UInt8) : String :=
  String.ofList (hexDigits bs)

def messageFields (m : Message) : List Field :=
  [("nonce", .number (decimal m.nonce).toList), ("owed", .string (decimal m.owed)),
    ("units", .string (decimal m.units)), ("ts", .string (decimal m.ts)),
    ("providerSig", .string (hex m.providerSig))] ++
    (m.consumerSig.map fun sig => ("consumerSig", .string (hex sig))).toList

def joinFields (session role : String) : List Field :=
  [("type", .string "join"), ("session", .string session), ("role", .string role)]

/-- What the handlers read out of the fields. -/
def readFieldsOf (fields : List Field) : Option Message := do
  let nonce ← fields.lookup "nonce"
  let owed ← fields.lookup "owed"
  let units ← fields.lookup "units"
  let ts ← fields.lookup "ts"
  let providerSig ← fields.lookup "providerSig"
  return {
    nonce := parseBn nonce.chars
    owed := parseBn owed.chars
    units := parseBn units.chars
    ts := parseBn ts.chars
    providerSig := ofHexDigits providerSig.chars
    consumerSig := (fields.lookup "consumerSig").map fun sig => ofHexDigits sig.chars }

/-- What the relay makes of a text. -/
def jsonOf (text : String) : Option Relay.Json := do
  let fields ← parse text
  if fields.lookup "type" = some (.string "join") then do
    let session ← fields.lookup "session"
    let role ← fields.lookup "role"
    return .join (String.ofList session.chars) (String.ofList role.chars)
  else return .other

theorem ofHexDigits_hexDigits (bs : List UInt8) : ofHexDigits (hexDigits bs) = bs := by
  have value : ∀ n < 16, hexValue (Nat.digitChar n) = some n := by decide
  induction bs with
  | nil => rfl
  | cons b bs ih =>
    have high : b.toNat / 16 < 16 := by
      have hb := b.toNat_lt
      omega
    have hbyte : UInt8.ofNat (16 * (b.toNat / 16) + b.toNat % 16) = b := by
      rw [Nat.div_add_mod, UInt8.ofNat_toNat]
    rw [hexDigits] at ih
    simp only [hexDigits, List.flatMap_cons, List.cons_append, List.nil_append, ofHexDigits,
      value _ high, value _ (Nat.mod_lt _ (by decide)), hbyte, ih]

theorem decimal_spelled (v : Int) : ∀ c ∈ (decimal v).toList, numeric c = true := by
  have digits : ∀ (n : Nat), ∀ c ∈ n.repr.toList, numeric c = true := by
    intro n c hc
    rw [Nat.toList_repr] at hc
    simp [numeric, Nat.isDigit_of_mem_toDigits (by decide) (by decide) hc]
  intro c hc
  rw [decimal, Int.toString_eq_repr, Int.repr_eq_if] at hc
  split at hc
  · exact digits _ c hc
  · rw [String.toList_append] at hc
    rcases List.mem_append.mp hc with hs | hd
    · obtain rfl : c = '-' := by simpa using hs
      decide
    · exact digits _ c hd

theorem messageFields_spelled (m : Message) : ∀ f ∈ messageFields m, f.2.Spelled := by
  intro f hf
  simp only [messageFields, List.mem_append, List.mem_cons, List.not_mem_nil, or_false,
    Option.mem_toList, Option.map_eq_some_iff] at hf
  rcases hf with (rfl | rfl | rfl | rfl | rfl) | ⟨_, _, rfl⟩
  · exact decimal_spelled _
  all_goals trivial

theorem readFieldsOf_messageFields (m : Message) : readFieldsOf (messageFields m) = some m := by
  have bn : ∀ v, parseBn (decimal v).toList = v := bn_eq
  obtain ⟨nonce, owed, units, ts, providerSig, consumerSig⟩ := m
  cases consumerSig
  all_goals simp [readFieldsOf, messageFields, List.lookup_cons, Value.chars, bn, hex,
    ofHexDigits_hexDigits]

/-- JSON, as much of it as the demo's messages use. -/
def text : Wire where
  stringify m := stringify (messageFields m)
  join session role := stringify (joinFields session role)
  json := jsonOf
  read raw := (parse raw).bind readFieldsOf
  json_stringify m := by
    rw [jsonOf, parse_stringify (by simp [messageFields]) (messageFields_spelled m)]
    cases h : m.consumerSig <;> simp [messageFields, List.lookup_cons, h]
  json_join session role := by
    have spelled : ∀ f ∈ joinFields session role, f.2.Spelled := by simp [joinFields, Value.Spelled]
    rw [jsonOf, parse_stringify (by simp [joinFields]) spelled]
    simp [joinFields, List.lookup_cons, Value.chars]
  read_stringify m := by
    rw [parse_stringify (by simp [messageFields]) (messageFields_spelled m), Option.bind_some]
    exact readFieldsOf_messageFields m

end SolMesh.Demo
