import IiotMonitoring.Firmware.OfflineRun

/-!
# Rules for the NVS calls

One inversion rule for each call at the head of a program: the run was cut before the call, or the
call was answered in one of the ways the device allows and the rest ran on from there.
-/

namespace IiotMonitoring

open Program

variable {mayFail : Prop} {α : Type} {nvs nvs' : Nvs} {trace : List (Answered NvsAnswer)}
  {outcome : Option α}

theorem exec_getBlob {key : String} {size : Nat}
    {rest : Except EspErr (List UInt8) → NvsProgram α}
    (hrun : Exec (nvsAnswers mayFail) (nvsGetBlob key size >>= rest) nvs trace outcome nvs') :
    (trace = [] ∧ outcome = none ∧ nvs' = nvs) ∨
      ∃ tail, trace = ⟨.getBlob key size, nvs.get key size⟩ :: tail ∧
        Exec (nvsAnswers mayFail) (rest (nvs.get key size)) nvs tail outcome nvs' := by
  rw [nvsGetBlob, perform_bind, exec_call_iff] at hrun
  rcases hrun with hcut | ⟨answer, middle, tail, rfl, hanswer, hrest⟩
  · exact .inl hcut
  · obtain ⟨rfl, rfl⟩ := hanswer
    exact .inr ⟨tail, rfl, hrest⟩

theorem exec_setBlob {key : String} {value : List UInt8} {rest : EspErr → NvsProgram α}
    (hrun : Exec (nvsAnswers mayFail) (nvsSetBlob key value >>= rest) nvs trace outcome nvs') :
    (trace = [] ∧ outcome = none ∧ nvs' = nvs) ∨
      (∃ tail, trace = ⟨.setBlob key value, .ok⟩ :: tail ∧
        Exec (nvsAnswers mayFail) (rest .ok) (nvs.set key value) tail outcome nvs') ∨
      ∃ tail, trace = ⟨.setBlob key value, .fail⟩ :: tail ∧ mayFail ∧
        Exec (nvsAnswers mayFail) (rest .fail) nvs tail outcome nvs' := by
  rw [nvsSetBlob, perform_bind, exec_call_iff] at hrun
  rcases hrun with hcut | ⟨answer, middle, tail, rfl, hanswer, hrest⟩
  · exact .inl hcut
  · rcases hanswer with ⟨rfl, rfl⟩ | ⟨hfail, rfl, rfl⟩
    · exact .inr (.inl ⟨tail, rfl, hrest⟩)
    · exact .inr (.inr ⟨tail, rfl, hfail, hrest⟩)

theorem exec_eraseKey {key : String} {rest : EspErr → NvsProgram α}
    (hrun : Exec (nvsAnswers mayFail) (nvsEraseKey key >>= rest) nvs trace outcome nvs') :
    (trace = [] ∧ outcome = none ∧ nvs' = nvs) ∨
      (∃ tail, trace = ⟨.eraseKey key, nvs.eraseAnswer key⟩ :: tail ∧
        Exec (nvsAnswers mayFail) (rest (nvs.eraseAnswer key)) (nvs.erase key) tail outcome nvs') ∨
      ∃ tail, trace = ⟨.eraseKey key, .fail⟩ :: tail ∧ mayFail ∧
        Exec (nvsAnswers mayFail) (rest .fail) nvs tail outcome nvs' := by
  rw [nvsEraseKey, perform_bind, exec_call_iff] at hrun
  rcases hrun with hcut | ⟨answer, middle, tail, rfl, hanswer, hrest⟩
  · exact .inl hcut
  · rcases hanswer with ⟨rfl, rfl⟩ | ⟨hfail, rfl, rfl⟩
    · exact .inr (.inl ⟨tail, rfl, hrest⟩)
    · exact .inr (.inr ⟨tail, rfl, hfail, hrest⟩)

theorem exec_commit {rest : EspErr → NvsProgram α}
    (hrun : Exec (nvsAnswers mayFail) (nvsCommit >>= rest) nvs trace outcome nvs') :
    (trace = [] ∧ outcome = none ∧ nvs' = nvs) ∨
      ∃ answer tail, trace = ⟨.commit, answer⟩ :: tail ∧
        (answer = .ok ∨ mayFail ∧ answer = .fail) ∧
        Exec (nvsAnswers mayFail) (rest answer) nvs tail outcome nvs' := by
  rw [nvsCommit, perform_bind, exec_call_iff] at hrun
  rcases hrun with hcut | ⟨answer, middle, tail, rfl, hanswer, hrest⟩
  · exact .inl hcut
  · obtain ⟨hanswer, rfl⟩ := hanswer
    exact .inr ⟨answer, tail, rfl, hanswer, hrest⟩

theorem exec_espLog {level : LogLevel} {text : String} {rest : Unit → NvsProgram α}
    (hrun : Exec (nvsAnswers mayFail) (espLog level text >>= rest) nvs trace outcome nvs') :
    (trace = [] ∧ outcome = none ∧ nvs' = nvs) ∨
      ∃ tail, trace = ⟨.log level text, ()⟩ :: tail ∧
        Exec (nvsAnswers mayFail) (rest ()) nvs tail outcome nvs' := by
  rw [espLog, perform_bind, exec_call_iff] at hrun
  rcases hrun with hcut | ⟨answer, middle, tail, rfl, hanswer, hrest⟩
  · exact .inl hcut
  · obtain rfl : middle = nvs := hanswer
    exact .inr ⟨tail, rfl, hrest⟩

theorem exec_pure {value : α}
    (hrun : Exec (nvsAnswers mayFail) (pure value : NvsProgram α) nvs trace outcome nvs') :
    trace = [] ∧ nvs' = nvs ∧ (outcome = none ∨ outcome = some value) :=
  exec_done_iff.mp hrun

/-! ### What a trace records -/

section Traces

@[simp]
theorem storedKeys_nil : storedKeys [] = [] := rfl

@[simp]
theorem storedKeys_getBlob {key : String} {size : Nat} {answer : Except EspErr (List UInt8)}
    {tail : List (Answered NvsAnswer)} :
    storedKeys (⟨.getBlob key size, answer⟩ :: tail) = storedKeys tail := rfl

@[simp]
theorem storedKeys_setBlob_ok {key : String} {value : List UInt8}
    {tail : List (Answered NvsAnswer)} :
    storedKeys (⟨.setBlob key value, .ok⟩ :: tail) = key :: storedKeys tail := rfl

@[simp]
theorem storedKeys_setBlob_fail {key : String} {value : List UInt8}
    {tail : List (Answered NvsAnswer)} :
    storedKeys (⟨.setBlob key value, .fail⟩ :: tail) = storedKeys tail := rfl

@[simp]
theorem storedKeys_eraseKey {key : String} {answer : EspErr} {tail : List (Answered NvsAnswer)} :
    storedKeys (⟨.eraseKey key, answer⟩ :: tail) = storedKeys tail := rfl

@[simp]
theorem storedKeys_commit {answer : EspErr} {tail : List (Answered NvsAnswer)} :
    storedKeys (⟨.commit, answer⟩ :: tail) = storedKeys tail := rfl

@[simp]
theorem storedKeys_log {level : LogLevel} {text : String} {answer : Unit}
    {tail : List (Answered NvsAnswer)} :
    storedKeys (⟨.log level text, answer⟩ :: tail) = storedKeys tail := rfl

theorem storedKeys_append (left right : List (Answered NvsAnswer)) :
    storedKeys (left ++ right) = storedKeys left ++ storedKeys right :=
  List.filterMap_append

@[simp]
theorem loggedTexts_nil : loggedTexts [] = [] := rfl

@[simp]
theorem loggedTexts_getBlob {key : String} {size : Nat} {answer : Except EspErr (List UInt8)}
    {tail : List (Answered NvsAnswer)} :
    loggedTexts (⟨.getBlob key size, answer⟩ :: tail) = loggedTexts tail := rfl

@[simp]
theorem loggedTexts_setBlob {key : String} {value : List UInt8} {answer : EspErr}
    {tail : List (Answered NvsAnswer)} :
    loggedTexts (⟨.setBlob key value, answer⟩ :: tail) = loggedTexts tail := rfl

@[simp]
theorem loggedTexts_eraseKey {key : String} {answer : EspErr} {tail : List (Answered NvsAnswer)} :
    loggedTexts (⟨.eraseKey key, answer⟩ :: tail) = loggedTexts tail := rfl

@[simp]
theorem loggedTexts_commit {answer : EspErr} {tail : List (Answered NvsAnswer)} :
    loggedTexts (⟨.commit, answer⟩ :: tail) = loggedTexts tail := rfl

@[simp]
theorem loggedTexts_log {level : LogLevel} {text : String} {answer : Unit}
    {tail : List (Answered NvsAnswer)} :
    loggedTexts (⟨.log level text, answer⟩ :: tail) = text :: loggedTexts tail := rfl

theorem loggedTexts_append (left right : List (Answered NvsAnswer)) :
    loggedTexts (left ++ right) = loggedTexts left ++ loggedTexts right :=
  List.filterMap_append

theorem failedKeys_append (left right : List (Answered NvsAnswer)) :
    failedKeys (left ++ right) = failedKeys left ++ failedKeys right :=
  List.filterMap_append

end Traces

end IiotMonitoring
