namespace ParkingStation

inductive Device
  | antenna
  | cardReader
  | paymentReader
  deriving DecidableEq

namespace Device

def title : Device → String
  | antenna => "Antenna"
  | cardReader => "KSM"
  | paymentReader => "LCSC"

def code : Device → String
  | antenna => "antenna"
  | cardReader => "ksm"
  | paymentReader => "lcsc"

def all : List Device := [antenna, cardReader, paymentReader]

end Device

inductive Reason
  | sendFailed
  | writeTimeout
  | ackTimeout
  | noResponse
  | disconnected
  | nak
  | busy
  | crcError
  | invalidFrame
  | unexpectedResponse
  | commandNotRecognized
  | queueBusy
  | pollExhausted
  | config
  deriving DecidableEq

namespace Reason

def code : Reason → String
  | sendFailed => "send_failed"
  | writeTimeout => "write_timeout"
  | ackTimeout => "ack_timeout"
  | noResponse => "no_response"
  | disconnected => "disconnected"
  | nak => "nak"
  | busy => "busy"
  | crcError => "crc_error"
  | invalidFrame => "invalid_frame"
  | unexpectedResponse => "unexpected_response"
  | commandNotRecognized => "command_not_recognized"
  | queueBusy => "queue_busy"
  | pollExhausted => "poll_exhausted"
  | config => "config"

def isTransient : Reason → Bool
  | sendFailed | writeTimeout | ackTimeout | noResponse | nak | busy | crcError => true
  | _ => false

def all : List Reason :=
  [sendFailed, writeTimeout, ackTimeout, noResponse, disconnected, nak, busy, crcError, invalidFrame,
    unexpectedResponse, commandNotRecognized, queueBusy, pollExhausted, config]

end Reason

end ParkingStation
