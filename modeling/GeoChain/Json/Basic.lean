import GeoChain.Keyed
import GeoChain.Number.Double

/-!
# JSON values

Integers and floating-point numbers are different values: `1` is not `1.0`. The members of an
object that was read are in key order, each key once; a record that is about to be written keeps
the order in which it declares its members.
-/

namespace GeoChain

inductive Json where
  | null
  | bool (value : Bool)
  | int (value : Int)
  | float (value : Double)
  | string (value : String)
  | array (items : List Json)
  | object (members : List (String × Json))

namespace Json

instance : Inhabited Json := ⟨null⟩

mutual

def decEq : (a b : Json) → Decidable (a = b)
  | null, null => isTrue rfl
  | bool a, bool b =>
    if same : a = b then isTrue (same ▸ rfl) else isFalse (fun eq => same (bool.inj eq))
  | int a, int b =>
    if same : a = b then isTrue (same ▸ rfl) else isFalse (fun eq => same (int.inj eq))
  | float a, float b =>
    if same : a = b then isTrue (same ▸ rfl) else isFalse (fun eq => same (float.inj eq))
  | string a, string b =>
    if same : a = b then isTrue (same ▸ rfl) else isFalse (fun eq => same (string.inj eq))
  | array a, array b =>
    match decEqItems a b with
    | isTrue same => isTrue (same ▸ rfl)
    | isFalse apart => isFalse (fun eq => apart (array.inj eq))
  | object a, object b =>
    match decEqMembers a b with
    | isTrue same => isTrue (same ▸ rfl)
    | isFalse apart => isFalse (fun eq => apart (object.inj eq))
  | null, bool _ | null, int _ | null, float _ | null, string _ | null, array _ | null, object _
  | bool _, null | bool _, int _ | bool _, float _ | bool _, string _ | bool _, array _
  | bool _, object _ | int _, null | int _, bool _ | int _, float _ | int _, string _
  | int _, array _ | int _, object _ | float _, null | float _, bool _ | float _, int _
  | float _, string _ | float _, array _ | float _, object _ | string _, null | string _, bool _
  | string _, int _ | string _, float _ | string _, array _ | string _, object _ | array _, null
  | array _, bool _ | array _, int _ | array _, float _ | array _, string _ | array _, object _
  | object _, null | object _, bool _ | object _, int _ | object _, float _ | object _, string _
  | object _, array _ => isFalse nofun

def decEqItems : (a b : List Json) → Decidable (a = b)
  | [], [] => isTrue rfl
  | [], _ :: _ => isFalse nofun
  | _ :: _, [] => isFalse nofun
  | a :: as, b :: bs =>
    match decEq a b, decEqItems as bs with
    | isTrue head, isTrue tail => isTrue (head ▸ tail ▸ rfl)
    | isFalse apart, _ => isFalse (fun eq => apart (List.cons.inj eq).1)
    | _, isFalse apart => isFalse (fun eq => apart (List.cons.inj eq).2)

def decEqMembers : (a b : List (String × Json)) → Decidable (a = b)
  | [], [] => isTrue rfl
  | [], _ :: _ => isFalse nofun
  | _ :: _, [] => isFalse nofun
  | (k, a) :: as, (l, b) :: bs =>
    match decEq a b, decEqMembers as bs with
    | isTrue head, isTrue tail =>
      if key : k = l then isTrue (key ▸ head ▸ tail ▸ rfl)
      else isFalse (fun eq => key (Prod.mk.inj (List.cons.inj eq).1).1)
    | isFalse apart, _ => isFalse (fun eq => apart (Prod.mk.inj (List.cons.inj eq).1).2)
    | _, isFalse apart => isFalse (fun eq => apart (List.cons.inj eq).2)

end

instance : DecidableEq Json := decEq

/-- Integers that stay exact: those of 64 bits, signed or unsigned. -/
def isExact (n : Int) : Bool := -(Int.pow 2 63) ≤ n && n < Int.pow 2 64

def ofNat (n : Nat) : Json := int n

def ofStrings (texts : List String) : Json := array (texts.map string)

end Json

end GeoChain
