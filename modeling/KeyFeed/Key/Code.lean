import KeyFeed.Text.Digits

/-! The control codes of remote control keys: the operand of a key press on the bus. The code space has gaps;
    a reserved byte has no `Code`, even inside the range that the key names cover. -/

namespace KeyFeed.Key

inductive Code where
  | select | up | down | left | right | rightUp | rightDown | leftUp | leftDown | rootMenu | setupMenu
  | contentsMenu | favoriteMenu | exit | topMenu | dvdMenu | numberEntryMode | number11 | number12
  | number0 | number1 | number2 | number3 | number4 | number5 | number6 | number7 | number8 | number9 | dot
  | enter | clear | nextFavorite | channelUp | channelDown | previousChannel | soundSelect | inputSelect
  | displayInformation | help | pageUp | pageDown | power | volumeUp | volumeDown | mute | play | stop
  | pause | record | rewind | fastForward | eject | forward | backward | stopRecord | pauseRecord | angle
  | subPicture | videoOnDemand | electronicProgramGuide | timerProgramming | initialConfiguration
  | selectBroadcastType | selectSoundPresentation | playFunction | pausePlayFunction | recordFunction
  | pauseRecordFunction | stopFunction | muteFunction | restoreVolumeFunction | tuneFunction
  | selectMediaFunction | selectAvInputFunction | selectAudioInputFunction | powerToggleFunction
  | powerOffFunction | powerOnFunction | f1Blue | f2Red | f3Green | f4Yellow | f5 | data | anReturn
  | anChannelsList
  deriving DecidableEq, Repr

namespace Code

/-- Every assigned code, in the order of their bytes. -/
def all : List Code :=
  [select, up, down, left, right, rightUp, rightDown, leftUp, leftDown, rootMenu, setupMenu, contentsMenu,
   favoriteMenu, exit, topMenu, dvdMenu, numberEntryMode, number11, number12, number0, number1, number2,
   number3, number4, number5, number6, number7, number8, number9, dot, enter, clear, nextFavorite,
   channelUp, channelDown, previousChannel, soundSelect, inputSelect, displayInformation, help, pageUp,
   pageDown, power, volumeUp, volumeDown, mute, play, stop, pause, record, rewind, fastForward, eject,
   forward, backward, stopRecord, pauseRecord, angle, subPicture, videoOnDemand, electronicProgramGuide,
   timerProgramming, initialConfiguration, selectBroadcastType, selectSoundPresentation, playFunction,
   pausePlayFunction, recordFunction, pauseRecordFunction, stopFunction, muteFunction,
   restoreVolumeFunction, tuneFunction, selectMediaFunction, selectAvInputFunction,
   selectAudioInputFunction, powerToggleFunction, powerOffFunction, powerOnFunction, f1Blue, f2Red,
   f3Green, f4Yellow, f5, data, anReturn, anChannelsList]

def toByte : Code → UInt8
  | select => 0x00 | up => 0x01 | down => 0x02 | left => 0x03 | right => 0x04 | rightUp => 0x05
  | rightDown => 0x06 | leftUp => 0x07 | leftDown => 0x08 | rootMenu => 0x09 | setupMenu => 0x0A
  | contentsMenu => 0x0B | favoriteMenu => 0x0C | exit => 0x0D | topMenu => 0x10 | dvdMenu => 0x11
  | numberEntryMode => 0x1D | number11 => 0x1E | number12 => 0x1F | number0 => 0x20 | number1 => 0x21
  | number2 => 0x22 | number3 => 0x23 | number4 => 0x24 | number5 => 0x25 | number6 => 0x26
  | number7 => 0x27 | number8 => 0x28 | number9 => 0x29 | dot => 0x2A | enter => 0x2B | clear => 0x2C
  | nextFavorite => 0x2F | channelUp => 0x30 | channelDown => 0x31 | previousChannel => 0x32
  | soundSelect => 0x33 | inputSelect => 0x34 | displayInformation => 0x35 | help => 0x36 | pageUp => 0x37
  | pageDown => 0x38 | power => 0x40 | volumeUp => 0x41 | volumeDown => 0x42 | mute => 0x43 | play => 0x44
  | stop => 0x45 | pause => 0x46 | record => 0x47 | rewind => 0x48 | fastForward => 0x49 | eject => 0x4A
  | forward => 0x4B | backward => 0x4C | stopRecord => 0x4D | pauseRecord => 0x4E | angle => 0x50
  | subPicture => 0x51 | videoOnDemand => 0x52 | electronicProgramGuide => 0x53 | timerProgramming => 0x54
  | initialConfiguration => 0x55 | selectBroadcastType => 0x56 | selectSoundPresentation => 0x57
  | playFunction => 0x60 | pausePlayFunction => 0x61 | recordFunction => 0x62 | pauseRecordFunction => 0x63
  | stopFunction => 0x64 | muteFunction => 0x65 | restoreVolumeFunction => 0x66 | tuneFunction => 0x67
  | selectMediaFunction => 0x68 | selectAvInputFunction => 0x69 | selectAudioInputFunction => 0x6A
  | powerToggleFunction => 0x6B | powerOffFunction => 0x6C | powerOnFunction => 0x6D | f1Blue => 0x71
  | f2Red => 0x72 | f3Green => 0x73 | f4Yellow => 0x74 | f5 => 0x75 | data => 0x76 | anReturn => 0x91
  | anChannelsList => 0x96

def name : Code → String
  | select => "Select" | up => "Up" | down => "Down" | left => "Left" | right => "Right"
  | rightUp => "RightUp" | rightDown => "RightDown" | leftUp => "LeftUp" | leftDown => "LeftDown"
  | rootMenu => "RootMenu" | setupMenu => "SetupMenu" | contentsMenu => "ContentsMenu"
  | favoriteMenu => "FavoriteMenu" | exit => "Exit" | topMenu => "TopMenu" | dvdMenu => "DvdMenu"
  | numberEntryMode => "NumberEntryMode" | number11 => "Number11" | number12 => "Number12"
  | number0 => "Number0" | number1 => "Number1" | number2 => "Number2" | number3 => "Number3"
  | number4 => "Number4" | number5 => "Number5" | number6 => "Number6" | number7 => "Number7"
  | number8 => "Number8" | number9 => "Number9" | dot => "Dot" | enter => "Enter" | clear => "Clear"
  | nextFavorite => "NextFavorite" | channelUp => "ChannelUp" | channelDown => "ChannelDown"
  | previousChannel => "PreviousChannel" | soundSelect => "SoundSelect" | inputSelect => "InputSelect"
  | displayInformation => "DisplayInformation" | help => "Help" | pageUp => "PageUp"
  | pageDown => "PageDown" | power => "Power" | volumeUp => "VolumeUp" | volumeDown => "VolumeDown"
  | mute => "Mute" | play => "Play" | stop => "Stop" | pause => "Pause" | record => "Record"
  | rewind => "Rewind" | fastForward => "FastForward" | eject => "Eject" | forward => "Forward"
  | backward => "Backward" | stopRecord => "StopRecord" | pauseRecord => "PauseRecord" | angle => "Angle"
  | subPicture => "SubPicture" | videoOnDemand => "VideoOnDemand"
  | electronicProgramGuide => "ElectronicProgramGuide" | timerProgramming => "TimerProgramming"
  | initialConfiguration => "InitialConfiguration" | selectBroadcastType => "SelectBroadcastType"
  | selectSoundPresentation => "SelectSoundPresentation" | playFunction => "PlayFunction"
  | pausePlayFunction => "PausePlayFunction" | recordFunction => "RecordFunction"
  | pauseRecordFunction => "PauseRecordFunction" | stopFunction => "StopFunction"
  | muteFunction => "MuteFunction" | restoreVolumeFunction => "RestoreVolumeFunction"
  | tuneFunction => "TuneFunction" | selectMediaFunction => "SelectMediaFunction"
  | selectAvInputFunction => "SelectAvInputFunction"
  | selectAudioInputFunction => "SelectAudioInputFunction" | powerToggleFunction => "PowerToggleFunction"
  | powerOffFunction => "PowerOffFunction" | powerOnFunction => "PowerOnFunction" | f1Blue => "F1Blue"
  | f2Red => "F2Red" | f3Green => "F3Green" | f4Yellow => "F4Yellow" | f5 => "F5" | data => "Data"
  | anReturn => "AnReturn" | anChannelsList => "AnChannelsList"

/-- A reserved byte has no code. -/
def ofByte? (b : UInt8) : Option Code :=
  match b.toNat with
  | 0x00 => some select | 0x01 => some up | 0x02 => some down | 0x03 => some left | 0x04 => some right
  | 0x05 => some rightUp | 0x06 => some rightDown | 0x07 => some leftUp | 0x08 => some leftDown
  | 0x09 => some rootMenu | 0x0A => some setupMenu | 0x0B => some contentsMenu | 0x0C => some favoriteMenu
  | 0x0D => some exit | 0x10 => some topMenu | 0x11 => some dvdMenu | 0x1D => some numberEntryMode
  | 0x1E => some number11 | 0x1F => some number12 | 0x20 => some number0 | 0x21 => some number1
  | 0x22 => some number2 | 0x23 => some number3 | 0x24 => some number4 | 0x25 => some number5
  | 0x26 => some number6 | 0x27 => some number7 | 0x28 => some number8 | 0x29 => some number9
  | 0x2A => some dot | 0x2B => some enter | 0x2C => some clear | 0x2F => some nextFavorite
  | 0x30 => some channelUp | 0x31 => some channelDown | 0x32 => some previousChannel
  | 0x33 => some soundSelect | 0x34 => some inputSelect | 0x35 => some displayInformation | 0x36 => some help
  | 0x37 => some pageUp | 0x38 => some pageDown | 0x40 => some power | 0x41 => some volumeUp
  | 0x42 => some volumeDown | 0x43 => some mute | 0x44 => some play | 0x45 => some stop | 0x46 => some pause
  | 0x47 => some record | 0x48 => some rewind | 0x49 => some fastForward | 0x4A => some eject
  | 0x4B => some forward | 0x4C => some backward | 0x4D => some stopRecord | 0x4E => some pauseRecord
  | 0x50 => some angle | 0x51 => some subPicture | 0x52 => some videoOnDemand
  | 0x53 => some electronicProgramGuide | 0x54 => some timerProgramming | 0x55 => some initialConfiguration
  | 0x56 => some selectBroadcastType | 0x57 => some selectSoundPresentation | 0x60 => some playFunction
  | 0x61 => some pausePlayFunction | 0x62 => some recordFunction | 0x63 => some pauseRecordFunction
  | 0x64 => some stopFunction | 0x65 => some muteFunction | 0x66 => some restoreVolumeFunction
  | 0x67 => some tuneFunction | 0x68 => some selectMediaFunction | 0x69 => some selectAvInputFunction
  | 0x6A => some selectAudioInputFunction | 0x6B => some powerToggleFunction | 0x6C => some powerOffFunction
  | 0x6D => some powerOnFunction | 0x71 => some f1Blue | 0x72 => some f2Red | 0x73 => some f3Green
  | 0x74 => some f4Yellow | 0x75 => some f5 | 0x76 => some data | 0x91 => some anReturn
  | 0x96 => some anChannelsList | _ => none

def ofName? (s : String) : Option Code := all.find? (·.name == s)

/-- The keys whose release the adapter never reports, so that every report of them is a press. -/
def isEdgeTriggered : Code → Bool
  | anReturn | anChannelsList => true
  | _ => false

theorem ofByte?_toByte (c : Code) : ofByte? c.toByte = some c := by
  cases c <;> rfl

theorem toByte_of_ofByte? {b : UInt8} {c : Code} (h : ofByte? b = some c) : c.toByte = b := by
  unfold ofByte? at h
  split at h <;> first
    | next hb => exact Option.some.inj h ▸ UInt8.toNat_inj.mp hb.symm
    | cases h

end Code

end KeyFeed.Key
