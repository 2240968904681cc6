import ParkingStation.Device
import ParkingStation.Text.Printable

namespace ParkingStation

inductive Defect
  | unitNumber (digits : String)
  | bcdByte (byte : UInt8)
  | bcdDigits (digits : String)
  | date (digits : String)
  | time (digits : String)
  | antennaHeader (length : Nat)
  | antennaLength (declared carried : Nat)
  | cardReaderBody (length : Nat)
  | cardPresence (status : UInt8)
  | versionText
  | versionEntry (entry : String)
  | described (text : String)
  deriving DecidableEq

def Defect.message : Defect → String
  | unitNumber digits => "IU number must be 10 digits, got '" ++ digits ++ "'"
  | bcdByte byte => "invalid BCD byte " ++ Text.hexByte byte
  | bcdDigits digits => "cannot pack '" ++ digits ++ "' as BCD"
  | date digits => "invalid date " ++ digits
  | time digits => "invalid time " ++ digits
  | antennaHeader length => "antenna header needs 7 bytes, got " ++ toString length
  | antennaLength declared carried =>
    "length field says " ++ toString declared ++ ", body carries " ++ toString carried
  | cardReaderBody length => "KSM frame needs kind, cm and pm, got " ++ toString length ++ " bytes"
  | cardPresence status => "unknown card presence status " ++ Text.hexByte status
  | versionText => "CD version list is not ASCII"
  | versionEntry entry => "CD version entry '" ++ entry ++ "'"
  | described text => text

inductive Mismatch
  | command (answered awaited : String)
  | frameKind (kind : UInt8)
  | request (kind : UInt8)
  | described (text : String)
  deriving DecidableEq

def Mismatch.message : Mismatch → String
  | command answered awaited => answered ++ " while waiting for " ++ awaited
  | frameKind kind => "KSM frame kind " ++ Text.quotedChar (Text.byteChar kind)
  | request kind => "LCSC request frame type " ++ Text.hexByte kind ++ " from reader"
  | described text => text

inductive Unknown
  | antenna (category command : UInt8)
  | cardReader (cm pm : UInt8)
  | uploadInChunks
  | described (text : String)
  deriving DecidableEq

def Unknown.message : Unknown → String
  | antenna category command =>
    "antenna category " ++ Text.hexByte category ++ " command " ++ Text.hexByte command
  | cardReader cm pm => "KSM cm=" ++ Text.hexByte cm ++ " pm=" ++ Text.hexByte pm
  | uploadInChunks => "UploadCdFile is sent in chunks"
  | described text => text

inductive HexDefect
  | oddLength
  | digit (byte : UInt8) (position : Nat)
  deriving DecidableEq

def HexDefect.message : HexDefect → String
  | oddLength => "Odd number of digits"
  | digit byte position =>
    "Invalid character " ++ Text.quotedChar (Text.byteChar byte) ++ " at position " ++ toString position

inductive Misconfiguration
  | unreadable
  | emptyPort (device : Device)
  | baudRate (device : Device)
  | stopBits (device : Device) (bits : Nat)
  | dataBits (device : Device) (bits : Nat)
  | timeouts (device : Device)
  | pollAttempts (device : Device)
  | minOkTimes
  | loginKeyText (defect : HexDefect)
  | loginKeyLength (length : Nat)
  | chunkSize (limit size : Nat)
  | emptyChunks
  | fileKind (text : String)
  | noLine (device : Device)
  | unsupportedDataBits (bits : Nat)
  | unsupportedStopBits (bits : Nat)
  | described (text : String)
  deriving DecidableEq

def Misconfiguration.message : Misconfiguration → String
  | unreadable => "Failed to parse config"
  | emptyPort device => device.code ++ ": serial port cannot be empty"
  | baudRate device => device.code ++ ": baud rate must be greater than 0"
  | stopBits device bits => device.code ++ ": stop bits must be 1 or 2, got " ++ toString bits
  | dataBits device bits => device.code ++ ": data bits must be 7 or 8, got " ++ toString bits
  | timeouts device => device.code ++ ": timeouts must be greater than 0"
  | pollAttempts device => device.code ++ ": max_poll_attempts must be at least 1"
  | minOkTimes => "antenna: min_ok_times must be at least 1"
  | loginKeyText defect => "lcsc: invalid login key: " ++ defect.message
  | loginKeyLength length => "lcsc: login key must be 8 bytes, got " ++ toString length
  | chunkSize limit size => "lcsc: chunk_size must be 1-" ++ toString limit ++ ", got " ++ toString size
  | emptyChunks => "chunk size must be greater than 0"
  | fileKind text => "unknown CD file kind '" ++ text ++ "'"
  | noLine device => device.title ++ " is enabled but has no line"
  | unsupportedDataBits bits => "unsupported data bits " ++ toString bits
  | unsupportedStopBits bits => "unsupported stop bits " ++ toString bits
  | described text => text

inductive Error
  | sendFailed (detail : String)
  | writeTimeout (milliseconds : Nat)
  | ackTimeout (milliseconds : Nat)
  | noResponse (milliseconds : Nat)
  | disconnected (detail : String)
  | nak (detail : String)
  | busy
  | checksum (expected actual : UInt16)
  | frameTooLarge (size limit : Nat)
  | invalidFrame (defect : Defect)
  | truncated (expected actual : Nat)
  | unexpectedResponse (mismatch : Mismatch)
  | commandNotRecognized (command : Unknown)
  | queueBusy (detail : String)
  | config (cause : Misconfiguration)
  | io (detail : String)
  deriving DecidableEq

namespace Error

def message : Error → String
  | sendFailed detail => "Send failed: " ++ detail
  | writeTimeout ms => "Write timeout after " ++ toString ms ++ "ms"
  | ackTimeout ms => "No acknowledgement within " ++ toString ms ++ "ms"
  | noResponse ms => "No response within " ++ toString ms ++ "ms"
  | disconnected detail => "Device disconnected: " ++ detail
  | nak detail => "Command rejected by device: " ++ detail
  | busy => "Device busy"
  | checksum expected actual =>
    "Checksum mismatch: expected " ++ Text.hexWord expected ++ ", got " ++ Text.hexWord actual
  | frameTooLarge size limit => "Frame too large: " ++ toString size ++ " bytes (max " ++ toString limit ++ ")"
  | invalidFrame defect => "Invalid frame: " ++ defect.message
  | truncated expected actual =>
    "Truncated payload: expected " ++ toString expected ++ " bytes, got " ++ toString actual
  | unexpectedResponse mismatch => "Unexpected response: " ++ mismatch.message
  | commandNotRecognized command => "Command not recognized: " ++ command.message
  | queueBusy detail => "Queue busy: " ++ detail
  | config cause => "Configuration error: " ++ cause.message
  | io detail => "IO error: " ++ detail

def reason : Error → Reason
  | sendFailed _ | io _ => .sendFailed
  | writeTimeout _ => .writeTimeout
  | ackTimeout _ => .ackTimeout
  | noResponse _ | truncated .. => .noResponse
  | disconnected _ => .disconnected
  | nak _ => .nak
  | busy => .busy
  | checksum .. => .crcError
  | frameTooLarge .. | invalidFrame _ => .invalidFrame
  | unexpectedResponse _ => .unexpectedResponse
  | commandNotRecognized _ => .commandNotRecognized
  | queueBusy _ => .queueBusy
  | config _ => .config

def isUnrelated : Error → Bool
  | unexpectedResponse _ | commandNotRecognized _ => true
  | _ => false

end Error

end ParkingStation
