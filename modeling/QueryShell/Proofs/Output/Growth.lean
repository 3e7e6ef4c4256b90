import QueryShell.Proofs.Session.Evolution

/-!
The order of the output. What a sink has accepted stays in front of everything that is written to it
afterwards, by whatever statements.
-/

namespace QueryShell

variable {World Store : Type}

namespace Sink

def Grows (before after : Sink) : Prop := ∃ bytes, after = before.extend bytes

namespace Grows

variable {before middle after : Sink}

theorem refl (sink : Sink) : Grows sink sink := ⟨.empty, extend_empty.symm⟩

theorem trans (first : Grows before middle) (second : Grows middle after) :
    Grows before after := by
  obtain ⟨earlier, rfl⟩ := first
  obtain ⟨later, rfl⟩ := second
  exact ⟨earlier ++ later, extend_extend earlier later⟩

theorem write (chunk : ByteArray) (sink : Sink) : Grows sink (sink.write chunk).2 := by
  rw [Sink.write]
  split
  · exact refl sink
  · split
    · exact refl sink
    · exact ⟨chunk, rfl⟩

theorem writeLine (line : String) (sink : Sink) : Grows sink (sink.writeLine line).2 := by
  have body := write line.toUTF8 sink
  rw [Sink.writeLine]
  rcases written : sink.write line.toUTF8 with ⟨reason | _, after⟩
  · rw [written] at body
    exact body
  · rw [written] at body
    exact body.trans (write _ after)

end Grows

end Sink

namespace Session

structure Grows (before after : Session) : Prop where
  out : before.out.Grows after.out
  err : before.err.Grows after.err

variable {before middle after : Session}

theorem Grows.refl (session : Session) : Grows session session := ⟨.refl _, .refl _⟩

theorem Grows.trans (first : Grows before middle) (second : Grows middle after) :
    Grows before after := ⟨first.out.trans second.out, first.err.trans second.err⟩

theorem Change.grows (change : Change before after) : Grows before after := by
  cases change with
  | line text => exact ⟨.writeLine text _, .refl _⟩
  | info text =>
      rw [printInfo]
      split
      · exact .refl before
      · exact ⟨.refl _, .writeLine text _⟩
  | failure failure => exact ⟨.refl _, .writeLine failure.message before.err⟩
  | piece stream bytes =>
      cases stream with
      | out => exact ⟨.write bytes _, .refl _⟩
      | err => exact ⟨.refl _, .write bytes _⟩
  | assigned | restored | resources => exact ⟨.refl _, .refl _⟩

theorem Evolves.grows (evolves : before.Evolves after) : Grows before after := by
  induction evolves with
  | refl => exact .refl before
  | tail _ change ih => exact ih.trans change.grows

end Session

end QueryShell
