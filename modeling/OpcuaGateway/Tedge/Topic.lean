import OpcuaGateway.Foundation.Text

open text

namespace tedge.topic

/-- Root of the thin-edge MQTT API. -/
def TE_ROOT : String := "te"

/-- The four-segment entity identifier of the default topic scheme. -/
structure EntityTopicId where
  as_str : String
  deriving DecidableEq

namespace EntityTopicId

def main_device : EntityTopicId := ⟨"device/main//"⟩

/-- A child device. Its parent is set at registration, not in the topic. -/
def child_device (id : String) : EntityTopicId := ⟨"device/" ++ id ++ "//"⟩

def main_service (name : String) : EntityTopicId := ⟨"device/main/service/" ++ name⟩

@[simp] theorem child_device_as_str (id : String) :
    (child_device id).as_str = "device/" ++ id ++ "//" := rfl

@[simp] theorem main_service_as_str (name : String) :
    (main_service name).as_str = "device/main/service/" ++ name := rfl

def registration_topic (self : EntityTopicId) : String := TE_ROOT ++ "/" ++ self.as_str

def channel_topic (self : EntityTopicId) (channel : String) : String :=
  TE_ROOT ++ "/" ++ self.as_str ++ "/" ++ channel

theorem channel_topic_eq (self : EntityTopicId) (channel : String) :
    self.channel_topic channel = self.registration_topic ++ ("/" ++ channel) := by
  simp [channel_topic, registration_topic, String.append_assoc]

end EntityTopicId

/-- The character `sanitize_id` writes for one character of its input. -/
def sanitizeChar (c : Char) : Char :=
  if ('a' ≤ c ∧ c ≤ 'z') ∨ ('0' ≤ c ∧ c ≤ '9') ∨ c = '-' ∨ c = '_' then c
  else if 'A' ≤ c ∧ c ≤ 'Z' then to_ascii_lowercase c
  else '-'

def containsDoubleDash : List Char → Bool
  | c :: d :: rest => (c == '-' && d == '-') || containsDoubleDash (d :: rest)
  | _ => false

/-- One left-to-right pass of `replace("--", "-")`. -/
def replaceDoubleDash : List Char → List Char
  | '-' :: '-' :: rest => '-' :: replaceDoubleDash rest
  | c :: rest => c :: replaceDoubleDash rest
  | [] => []

/-- The collapse loop, bounded by the number of passes. -/
def collapseLoop : Nat → List Char → List Char
  | 0, cs => cs
  | n + 1, cs => if containsDoubleDash cs then collapseLoop n (replaceDoubleDash cs) else cs

/-- Make an arbitrary string usable as a topic identifier segment. Every pass of
the loop shortens the text, so as many passes as there are characters suffice. -/
def sanitize_id (input : String) : String :=
  let out := input.toList.map sanitizeChar
  let out := collapseLoop out.length out
  let trimmed := trimMatches (· == '-') out
  if trimmed = [] then "unnamed" else String.ofList trimmed

example : sanitize_id "Pump01 / cooling+line" = "pump01-cooling-line" := by decide
example : sanitize_id "--weird--" = "weird" ∧ sanitize_id "///" = "unnamed" := by decide

/-- The conservative set that sanitized identifiers are written in. -/
def isIdChar (c : Char) : Prop :=
  ('a' ≤ c ∧ c ≤ 'z') ∨ ('0' ≤ c ∧ c ≤ '9') ∨ c = '-' ∨ c = '_'

instance (c : Char) : Decidable (isIdChar c) := by unfold isIdChar; infer_instance

theorem sanitizeChar_isIdChar (c : Char) : isIdChar (sanitizeChar c) := by
  unfold sanitizeChar
  split
  · assumption
  · split
    · rename_i hupper
      unfold to_ascii_lowercase
      rw [if_pos hupper]
      have hlo : 65 ≤ c.toNat := hupper.1
      have hhi : c.toNat ≤ 90 := hupper.2
      have hvalid : (c.toNat + 32).isValidChar := Or.inl (by omega)
      have hval : (Char.ofNat (c.toNat + 32)).toNat = c.toNat + 32 := by
        rw [Char.ofNat, dif_pos hvalid]
        rfl
      refine Or.inl ⟨?_, ?_⟩
      · change 97 ≤ (Char.ofNat (c.toNat + 32)).toNat
        omega
      · change (Char.ofNat (c.toNat + 32)).toNat ≤ 122
        omega
    · exact Or.inr (Or.inr (Or.inl rfl))

theorem mem_of_mem_replaceDoubleDash {c : Char} {cs : List Char}
    (h : c ∈ replaceDoubleDash cs) : c ∈ cs := by
  fun_induction replaceDoubleDash cs with
  | case1 rest ih =>
    rcases List.mem_cons.mp h with rfl | h
    · exact List.mem_cons_self
    · exact List.mem_cons_of_mem _ (List.mem_cons_of_mem _ (ih h))
  | case2 d rest _ ih =>
    rcases List.mem_cons.mp h with rfl | h
    · exact List.mem_cons_self
    · exact List.mem_cons_of_mem _ (ih h)
  | case3 => exact h

theorem mem_of_mem_collapseLoop {c : Char} {n : Nat} {cs : List Char}
    (h : c ∈ collapseLoop n cs) : c ∈ cs := by
  induction n generalizing cs with
  | zero => exact h
  | succ n ih =>
    rw [collapseLoop] at h
    split at h
    · exact mem_of_mem_replaceDoubleDash (ih h)
    · exact h

/-- A sanitized identifier is written in the conservative set only. In
particular it holds neither a topic separator nor a topic wildcard. -/
theorem sanitize_id_isIdChar {input : String} {c : Char} (h : c ∈ (sanitize_id input).toList) :
    isIdChar c := by
  simp only [sanitize_id] at h
  split at h
  · have hall : "unnamed".toList.all (fun c => decide (isIdChar c)) = true := by decide
    exact of_decide_eq_true (List.all_eq_true.mp hall c h)
  · rw [String.toList_ofList, trimMatches, List.mem_reverse] at h
    have hdropped := (List.dropWhile_sublist _).subset h
    rw [List.mem_reverse] at hdropped
    have hkept := mem_of_mem_collapseLoop ((List.dropWhile_sublist _).subset hdropped)
    obtain ⟨d, -, rfl⟩ := List.mem_map.mp hkept
    exact sanitizeChar_isIdChar d

/-- Child devices are told apart by their identifiers alone. -/
theorem EntityTopicId.child_device_inj {id id' : String} :
    child_device id = child_device id' ↔ id = id' := by
  refine ⟨fun h => ?_, fun h => h ▸ rfl⟩
  have hstr := congrArg (fun e => e.as_str.toList) h
  simpa [child_device, String.toList_inj] using hstr

theorem isIdChar.ne_separator {c : Char} (h : isIdChar c) : c ≠ '/' := by
  rintro rfl
  revert h
  decide

theorem sanitize_id_no_separator (input : String) : '/' ∉ (sanitize_id input).toList :=
  fun hmem => (sanitize_id_isIdChar hmem).ne_separator rfl

/-- Topics of child devices are told apart by the devices' identifiers, whatever
stands behind them. -/
theorem EntityTopicId.child_prefix_inj {id id' rest rest' : String} (hid : '/' ∉ id.toList) (hid' : '/' ∉ id'.toList)
    (h : (child_device id).registration_topic ++ rest = (child_device id').registration_topic ++ rest') : id = id' := by
  have hlist := congrArg String.toList h
  simp only [registration_topic, child_device_as_str, TE_ROOT, String.toList_append] at hlist
  have hsegments : id.toList ++ '/' :: ("/".toList ++ rest.toList) =
      id'.toList ++ '/' :: ("/".toList ++ rest'.toList) := by
    simpa using hlist
  exact String.toList_inj.mp (append_sep_inj hid hid' hsegments).1

/-- No topic of a child device is a topic of a service of the main device: the
segment behind the device is empty for the one and `service` for the other. -/
theorem EntityTopicId.child_prefix_ne_service_prefix {id : String} (hid : '/' ∉ id.toList) (name rest rest' : String) :
    (child_device id).registration_topic ++ rest ≠ (main_service name).registration_topic ++ rest' := by
  intro h
  have hlist := congrArg String.toList h
  simp only [registration_topic, child_device_as_str, main_service_as_str, TE_ROOT,
    String.toList_append] at hlist
  have hsegments : id.toList ++ '/' :: ("/".toList ++ rest.toList) =
      "main".toList ++ '/' :: ("service/".toList ++ name.toList ++ rest'.toList) := by
    simpa using hlist
  have hrest := (append_sep_inj hid (by decide) hsegments).2
  simp at hrest

theorem EntityTopicId.device_topic_ne_service_topic {id : String} (hclean : ∀ c ∈ id.toList, isIdChar c)
    (name rest rest' : String) :
    (child_device id).registration_topic ++ rest ≠ (main_service name).registration_topic ++ rest' :=
  child_prefix_ne_service_prefix (fun hmem => (hclean _ hmem).ne_separator rfl) name rest rest'

end tedge.topic
