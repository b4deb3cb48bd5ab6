import KeyFeed.Key.Code

/-! The key names that subscribers see for each control code, in the order in which they are written. A diagonal
    has no name of its own and becomes two keys; a code without a fitting key has no name and is suppressed. -/

namespace KeyFeed.Key
open Text

/-- The names of an assigned code. -/
def Code.names : Code → List String
  | .select => ["KEY_OK"]
  | .up => ["KEY_UP"]
  | .down => ["KEY_DOWN"]
  | .left => ["KEY_LEFT"]
  | .right => ["KEY_RIGHT"]
  | .rightUp => ["KEY_RIGHT", "KEY_UP"]
  | .rightDown => ["KEY_RIGHT", "KEY_DOWN"]
  | .leftUp => ["KEY_LEFT", "KEY_UP"]
  | .leftDown => ["KEY_LEFT", "KEY_DOWN"]
  | .rootMenu => ["KEY_HOME"]
  | .setupMenu => ["KEY_SETUP"]
  | .contentsMenu => ["KEY_MENU"]
  | .favoriteMenu => ["KEY_FAVORITES"]
  | .exit => ["KEY_EXIT"]
  | .topMenu => ["KEY_ROOT_MENU"]
  | .dvdMenu => ["KEY_DVD"]
  | .number0 => ["KEY_0"]
  | .number1 => ["KEY_1"]
  | .number2 => ["KEY_2"]
  | .number3 => ["KEY_3"]
  | .number4 => ["KEY_4"]
  | .number5 => ["KEY_5"]
  | .number6 => ["KEY_6"]
  | .number7 => ["KEY_7"]
  | .number8 => ["KEY_8"]
  | .number9 => ["KEY_9"]
  | .dot => ["KEY_DOT"]
  | .enter => ["KEY_ENTER"]
  | .clear => ["KEY_BACKSPACE"]
  | .channelUp => ["KEY_CHANNELUP"]
  | .channelDown => ["KEY_CHANNELDOWN"]
  | .previousChannel => ["KEY_PREVIOUS"]
  | .soundSelect => ["KEY_SOUND"]
  | .inputSelect => ["KEY_TUNER"]
  | .displayInformation => ["KEY_INFO"]
  | .help => ["KEY_HELP"]
  | .pageUp => ["KEY_PAGEUP"]
  | .pageDown => ["KEY_PAGEDOWN"]
  | .power => ["KEY_POWER"]
  | .volumeUp => ["KEY_VOLUMEUP"]
  | .volumeDown => ["KEY_VOLUMEDOWN"]
  | .mute => ["KEY_MUTE"]
  | .play => ["KEY_PLAY"]
  | .stop => ["KEY_STOP"]
  | .pause => ["KEY_PAUSE"]
  | .record => ["KEY_RECORD"]
  | .rewind => ["KEY_REWIND"]
  | .fastForward => ["KEY_FASTFORWARD"]
  | .eject => ["KEY_EJECTCD"]
  | .forward => ["KEY_FORWARD"]
  | .backward => ["KEY_BACK"]
  | .angle => ["KEY_SCREEN"]
  | .subPicture => ["KEY_SUBTITLE"]
  | .videoOnDemand => ["KEY_VIDEO"]
  | .electronicProgramGuide => ["KEY_EPG"]
  | .timerProgramming => ["KEY_TIME"]
  | .initialConfiguration => ["KEY_CONFIG"]
  | .selectMediaFunction => ["KEY_MEDIA"]
  | .f1Blue => ["KEY_BLUE"]
  | .f2Red => ["KEY_RED"]
  | .f3Green => ["KEY_GREEN"]
  | .f4Yellow => ["KEY_YELLOW"]
  | .data => ["KEY_TEXT"]
  | .anReturn => ["KEY_ESC"]
  | .anChannelsList => ["KEY_LIST"]
  | .numberEntryMode | .number11 | .number12 | .nextFavorite | .stopRecord | .pauseRecord
  | .selectBroadcastType | .selectSoundPresentation | .playFunction | .pausePlayFunction
  | .recordFunction | .pauseRecordFunction | .stopFunction | .muteFunction | .restoreVolumeFunction
  | .tuneFunction | .selectAvInputFunction | .selectAudioInputFunction | .powerToggleFunction
  | .powerOffFunction | .powerOnFunction | .f5 => []

/-- The greatest code in the domain of the key names. -/
def maxCode : UInt8 := 0x96

/-- A byte outside the domain of the key names. -/
structure OutOfRange where
  code : UInt8
  deriving DecidableEq, Repr

def OutOfRange.message (e : OutOfRange) : String :=
  "control code 0x" ++ hexByte e.code ++ " is outside the key map domain (max 0x" ++ hexByte maxCode ++ ")"

/-- The names of every byte of the domain, in the order of the bytes; a reserved byte has none. -/
def table : List (List String) :=
  (List.range (maxCode.toNat + 1)).map fun n => ((Code.ofByte? (UInt8.ofNat n)).map Code.names).getD []

/-- The names of any byte in the domain. -/
def lookup (b : UInt8) : Except OutOfRange (List String) :=
  match table[b.toNat]? with
  | some names => .ok names
  | none => .error ⟨b⟩

/-- The names of an assigned code, as the table has them; outside the domain it would have none. -/
def lookupCode (c : Code) : List String :=
  match lookup c.toByte with
  | .ok names => names
  | .error _ => []

/-- The domain reaches exactly as far as the table. -/
theorem lookup_eq (b : UInt8) :
    lookup b = if b ≤ maxCode then .ok (((Code.ofByte? b).map Code.names).getD []) else .error ⟨b⟩ := by
  unfold lookup table
  rw [List.getElem?_map]
  by_cases hb : b ≤ maxCode
  · have hlt : b.toNat < maxCode.toNat + 1 := Nat.lt_succ_of_le hb
    rw [List.getElem?_range hlt, if_pos hb, Option.map_some, UInt8.ofNat_toNat]
  · have hnone : (List.range (maxCode.toNat + 1))[b.toNat]? = none := by
      rw [List.getElem?_eq_none_iff, List.length_range]
      exact Nat.lt_of_not_le hb
    rw [hnone, if_neg hb, Option.map_none]

theorem toByte_le_maxCode (c : Code) : c.toByte ≤ maxCode := by
  cases c <;> decide

theorem lookup_toByte (c : Code) : lookup c.toByte = .ok c.names := by
  rw [lookup_eq, if_pos (toByte_le_maxCode c), Code.ofByte?_toByte]
  rfl

@[simp] theorem lookupCode_eq (c : Code) : lookupCode c = c.names := by
  rw [lookupCode, lookup_toByte]

end KeyFeed.Key
