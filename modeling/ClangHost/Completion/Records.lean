import ClangHost.Engine.Basic
import ClangHost.Error

/-!
The checked view over the records of a result block. The engine says how it lays records out, where
they begin and how many there are; the view is made only when the host would read them in the same
way, from an aligned place, within the address space. No records need no checks (`check_zero`).
-/
namespace ClangHost

structure RecordView where
  count : Nat
  record : Nat → CompletionRecord

namespace RecordLayout

def check (l : RecordLayout) : Except SchemaFault Unit :=
  match l.completionString with
  | none => .error .missingField
  | some offset =>
    if offset ≠ 8 then .error (.fieldOffset offset 8)
    else if l.size ≠ host.size then .error (.recordSize l.size host.size)
    else if l.align ≠ host.align then .error (.recordAlign l.align host.align)
    else .ok ()

def debug (l : RecordLayout) : String :=
  let offset := l.completionString.elim "None" fun o => "Some(" ++ toString o ++ ")"
  "RecordLayout \x7b size: " ++ toString l.size ++ ", align: " ++ toString l.align
    ++ ", completion_string: " ++ offset ++ " \x7d"

theorem check_eq_ok_iff (l : RecordLayout) : l.check = .ok () ↔ l = host := by
  rcases l with ⟨size, align, _ | o⟩
  · simp [check, host]
  · by_cases ho : o = 8 <;> by_cases hs : size = 16 <;> by_cases ha : align = 8 <;>
      simp [check, host, ho, hs, ha]

end RecordLayout

namespace RecordView

def addressable : Nat := 0x7FFFFFFFFFFFFFFF

def empty : RecordView := { count := 0, record := fun _ => ⟨0, 0⟩ }

def checkPlace (base : Address) (l : RecordLayout) (count : UInt64) : Except SchemaFault Unit :=
  if base = 0 then .error (.nullRecords count)
  else if base % l.align ≠ 0 then .error (.misaligned base l.align)
  else if addressable < count.toNat * l.size.toNat then .error (.overflow count l.size)
  else .ok ()

def check (base : Address) (l : RecordLayout) (count : UInt64) : Except SchemaFault Unit :=
  if count = 0 then .ok ()
  else do
    l.check
    checkPlace base l count

def make (base : Address) (l : RecordLayout) (count : UInt64)
    (record : Nat → CompletionRecord) : Except Error RecordView :=
  match check base l count with
  | .ok () => .ok { count := count.toNat, record }
  | .error fault => .error (.schemaMismatch fault)

def get? (v : RecordView) (i : Nat) : Option CompletionRecord :=
  if i < v.count then some (v.record i) else none

def toList (v : RecordView) : List CompletionRecord := (List.range v.count).map v.record

theorem check_zero (base : Address) (l : RecordLayout) : check base l 0 = .ok () := rfl

theorem getElem?_toList (v : RecordView) (i : Nat) : v.toList[i]? = v.get? i := by
  simp only [toList, get?, List.getElem?_map]
  split
  · simp [*]
  · simp [*]

end RecordView
end ClangHost
