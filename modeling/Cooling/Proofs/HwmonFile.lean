-- SUMMARY: What a read of a hwmon sensor appends, or how it fails, by the contents of its file.
import Cooling.Proofs.Fields
import Cooling.Proofs.Readings

/-!
# Hwmon files

The file of a hwmon sensor shows a number if it is a text with one numeral and blanks around
it. The sensor then gives this number in whole degrees, toward zero, with its correction, and
fails if the sum is not one of 32 bits. Any other contents are a failure of the file.
-/

namespace Cooling

open Program

namespace HwmonSensor

/-- The contents of a file are a text that shows the number: a numeral of 32 bits, with
    nothing but blanks around it. -/
def Shows (bytes : ByteArray) (n : Int) : Prop :=
  ∃ (text : String) (numeral : List Char), bytes = text.toUTF8 ∧ Text.Pads text.toList numeral ∧
    Text.Spells32 numeral n

/-- Reads the sensor. Gives the sensor as it is then, the temperatures with those that it
    appended, and how it went. -/
def reads (s : HwmonSensor) (before : Temperatures) (m : Machine) :
    Sensor × Temperatures × Except Failure Unit :=
  ((Sensor.hwmon s).readOnto before).value m

/-- What the sensor gives for a number in its file: whole degrees, with the correction. -/
def degrees (s : HwmonSensor) (n : Int) : Int := n.tdiv 1000 + s.base.correction 0

variable {s : HwmonSensor} {bytes : ByteArray} {m : Machine}

theorem shows_toUTF8_iff {text : String} {n : Int} :
    Shows text.toUTF8 n ↔ Text.Spells32 (Text.trim text.toList) n := by
  constructor
  · rintro ⟨text', numeral, hbytes, hpads, hspells⟩
    obtain rfl : text = text' := by
      have hdecode := ControlFile.decode_eq_ok_iff.2 hbytes
      rw [ControlFile.decode_toUTF8] at hdecode
      exact Except.ok.inj hdecode
    rwa [hpads.trim_eq]
  · exact fun h => ⟨text, _, rfl, Text.pads_trim _, h⟩

theorem Shows.unique {n k : Int} (hn : Shows bytes n) (hk : Shows bytes k) : n = k := by
  obtain ⟨text, numeral, rfl, hpads, hspells⟩ := hn
  rw [shows_toUTF8_iff, hpads.trim_eq] at hk
  exact hspells.unique hk

/-- What the contents of the file stand for. -/
def convert (s : HwmonSensor) (bytes : ByteArray) : Except Failure Int :=
  ((ControlFile.decode bytes).mapError (unreadable s.base.path)).bind s.interpret

/-- Without faults the contents of the file decide how a read goes. -/
theorem reads_eq (hpath : '\x00' ∉ s.base.path.toList) (hm : m.faults = [])
    (hfile : m.files.get? s.base.path = some bytes) (before : Temperatures) :
    s.reads before m =
      match s.convert bytes with
      | .ok t => (.hwmon s, before.append [t], .ok ())
      | .error f => (.hwmon s, before, .error f) := by
  have hcontents :
      (m.readFile s.base.path).1.bind ControlFile.decode = ControlFile.decode bytes := by
    rw [Machine.readFile_faultless hm, Machine.contents, hfile]
    rfl
  have hread : s.read.wp (fun r _ _ => r = Reading.ofExcept (s.convert bytes)) m := by
    unfold HwmonSensor.read
    rw [wp_bind]
    refine wp_mono (ControlFile.read_value hpath m) ?_
    rintro _ m' es ⟨rfl, -⟩
    rw [hcontents, convert]
    cases ControlFile.decode bytes <;> rfl
  exact Sensor.value_readOnto_ofExcept (.hwmon s) before m _ hread

/-- A number that is shown is converted, if the sum is in range. -/
theorem convert_of_shows {n : Int} (h : Shows bytes n) :
    s.convert bytes = s.base.corrected 0 (n.tdiv 1000) := by
  obtain ⟨text, numeral, rfl, hpads, hspells⟩ := h
  have hnumber := Text.signed32?_eq_some_iff.2 hspells
  rw [convert, ControlFile.decode_toUTF8]
  change s.interpret text = _
  rw [interpret, hpads.trim_eq, hnumber]

/-- Other contents are a failure of the file, without an error of the operating system. -/
theorem convert_of_not_shows (h : ∀ n, ¬Shows bytes n) :
    ∃ f, s.convert bytes = .error f ∧ f.kind = .io ∧ f.code? = none := by
  by_cases htext : ∃ text : String, bytes = text.toUTF8
  · obtain ⟨text, rfl⟩ := htext
    have hnone : Text.signed32? (Text.trim text.toList) = none :=
      Text.signed32?_eq_none_iff.2 fun n hn => h n (shows_toUTF8_iff.2 hn)
    refine ⟨notANumber s.base.path (Text.trim text.toList), ?_, rfl, rfl⟩
    rw [convert, ControlFile.decode_toUTF8]
    change s.interpret text = _
    rw [interpret, hnone]
  · rw [convert, ControlFile.decode_of_not_text (not_exists.1 htext)]
    exact ⟨_, rfl, rfl, rfl⟩

theorem convert_of_fits {n : Int} (h : Shows bytes n)
    (hfits : -2147483648 ≤ s.degrees n ∧ s.degrees n ≤ 2147483647) :
    s.convert bytes = .ok (s.degrees n) := by
  rw [convert_of_shows h]
  exact SensorBase.corrected_eq_ok_iff.2 ⟨rfl, hfits⟩

theorem convert_of_not_fits {n : Int} (h : Shows bytes n)
    (hfits : ¬(-2147483648 ≤ s.degrees n ∧ s.degrees n ≤ 2147483647)) :
    ∃ f, s.convert bytes = .error f ∧ f.kind = .system := by
  rw [convert_of_shows h]
  exact ⟨_, if_neg (mt Text.fits32_iff.1 hfits), rfl⟩

theorem degrees_mono {n k : Int} (h : n ≤ k) : s.degrees n ≤ s.degrees k :=
  Int.add_le_add_right (Int.tdiv_le_tdiv (by decide) h) _

/-- What a read appends for a number that is shown. -/
theorem eq_degrees_of_reads (hpath : '\x00' ∉ s.base.path.toList) (hm : m.faults = [])
    (hfile : m.files.get? s.base.path = some bytes) {before : Temperatures} {n t : Int}
    (hshows : Shows bytes n) (h : s.reads before m = (.hwmon s, before.append [t], .ok ())) :
    t = s.degrees n := by
  rw [reads_eq hpath hm hfile] at h
  by_cases hfits : -2147483648 ≤ s.degrees n ∧ s.degrees n ≤ 2147483647
  · rw [convert_of_fits hshows hfits] at h
    have happended : before.append [s.degrees n] = before.append [t] :=
      congrArg (fun r => r.2.1) h
    have hlist := congrArg Temperatures.toList happended
    exact (List.singleton_inj.1 (List.append_cancel_left hlist)).symm
  · obtain ⟨f, hf, -⟩ := convert_of_not_fits hshows hfits
    rw [hf] at h
    cases congrArg (fun r => r.2.2) h

/-- Without faults a read succeeds if and only if the file shows a number, and the whole
    degrees of that, with the correction, are a number of 32 bits. It appends just this
    number. If the sum is out of range, that is a failure of the system; and if the file shows
    no number, one of the file, without an error of the operating system. Both leave the
    temperatures alone. A file that shows a higher number never gives a lower temperature. -/
theorem reads_whole_degrees (hpath : '\x00' ∉ s.base.path.toList) (hm : m.faults = [])
    (hfile : m.files.get? s.base.path = some bytes) (before : Temperatures) :
    ((s.reads before m).2.2 = .ok () ↔
      ∃ n, Shows bytes n ∧ -2147483648 ≤ s.degrees n ∧ s.degrees n ≤ 2147483647) ∧
    (∀ n, Shows bytes n → -2147483648 ≤ s.degrees n ∧ s.degrees n ≤ 2147483647 →
      s.reads before m = (.hwmon s, before.append [s.degrees n], .ok ())) ∧
    (∀ n, Shows bytes n → ¬(-2147483648 ≤ s.degrees n ∧ s.degrees n ≤ 2147483647) →
      ∃ f, s.reads before m = (.hwmon s, before, .error f) ∧ f.kind = .system) ∧
    ((∀ n, ¬Shows bytes n) →
      ∃ f, s.reads before m = (.hwmon s, before, .error f) ∧ f.kind = .io ∧ f.code? = none) ∧
    ∀ m' bytes' n k, m'.faults = [] → m'.files.get? s.base.path = some bytes' →
      Shows bytes n → Shows bytes' k → n ≤ k →
      ∀ t u, s.reads before m = (.hwmon s, before.append [t], .ok ()) →
        s.reads before m' = (.hwmon s, before.append [u], .ok ()) → t ≤ u := by
  have hreads := reads_eq hpath hm hfile before
  have hgood : ∀ n, Shows bytes n → -2147483648 ≤ s.degrees n ∧ s.degrees n ≤ 2147483647 →
      s.reads before m = (.hwmon s, before.append [s.degrees n], .ok ()) := by
    intro n hshows hfits
    rw [hreads, convert_of_fits hshows hfits]
  have hfar : ∀ n, Shows bytes n → ¬(-2147483648 ≤ s.degrees n ∧ s.degrees n ≤ 2147483647) →
      ∃ f, s.reads before m = (.hwmon s, before, .error f) ∧ f.kind = .system := by
    intro n hshows hfits
    obtain ⟨f, hf, hkind⟩ := convert_of_not_fits hshows hfits
    exact ⟨f, by rw [hreads, hf], hkind⟩
  have hunshown : (∀ n, ¬Shows bytes n) →
      ∃ f, s.reads before m = (.hwmon s, before, .error f) ∧ f.kind = .io ∧ f.code? = none := by
    intro hnone
    obtain ⟨f, hf, hkind⟩ := convert_of_not_shows hnone
    exact ⟨f, by rw [hreads, hf], hkind⟩
  refine ⟨⟨fun hok => ?_, ?_⟩, hgood, hfar, hunshown, ?_⟩
  · by_cases hshows : ∃ n, Shows bytes n
    · obtain ⟨n, hshows⟩ := hshows
      by_cases hfits : -2147483648 ≤ s.degrees n ∧ s.degrees n ≤ 2147483647
      · exact ⟨n, hshows, hfits⟩
      · obtain ⟨f, hf, -⟩ := hfar n hshows hfits
        rw [hf] at hok
        cases hok
    · obtain ⟨f, hf, -⟩ := hunshown (not_exists.1 hshows)
      rw [hf] at hok
      cases hok
  · rintro ⟨n, hshows, hfits⟩
    rw [hgood n hshows hfits]
  · intro m' bytes' n k hm' hfile' hn hk hle t u ht hu
    rw [eq_degrees_of_reads hpath hm hfile hn ht, eq_degrees_of_reads hpath hm' hfile' hk hu]
    exact degrees_mono hle

/-- A number below zero is cut off toward zero, and one with a sign and zeros is read. -/
theorem frosty_reads_whole_degrees :
    let s : HwmonSensor := ⟨⟨"temp", 1, [2147483647]⟩⟩
    let m : Machine := { files := ⟨[("temp", " -0001999\n".toUTF8)]⟩ }
    Shows " -0001999\n".toUTF8 (-1999) ∧
      s.reads .empty m = (.hwmon s, .mk [2147483646], .ok ()) := by
  intro s m
  have hshows : Shows " -0001999\n".toUTF8 (-1999) :=
    shows_toUTF8_iff.2 (Text.signed32?_eq_some_iff.1 (by decide))
  exact ⟨hshows, (reads_whole_degrees (by decide) rfl rfl .empty).2.1 _ hshows (by decide)⟩

end HwmonSensor

end Cooling
