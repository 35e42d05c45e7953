import QuicHost.Settings.Basic
import QuicHost.Settings.Form
import QuicHost.Toml.Printer

/-!
# Settings as a document

The names under which the settings stand in a document, group by group. The
order of the fields is the order in which they are written.
-/

namespace QuicHost

open Settings

/-- The settings of a connection in a document. -/
def ConnectionSettings.form : Form ConnectionSettings := .record
  [.of "idle_timeout_ms" .word (·.idleTimeoutMs) ({ · with idleTimeoutMs := · }),
    .of "drain_timeout_ms" .word (·.drainTimeoutMs) ({ · with drainTimeoutMs := · }),
    .of "max_udp_payload_size" .word (·.maxUdpPayloadSize) ({ · with maxUdpPayloadSize := · }),
    .of "max_datagrams_per_poll" .word (·.maxDatagramsPerPoll)
      ({ · with maxDatagramsPerPoll := · }),
    .of "initial_max_data" .word (·.initialMaxData) ({ · with initialMaxData := · }),
    .of "initial_max_stream_data" .word (·.initialMaxStreamData)
      ({ · with initialMaxStreamData := · }),
    .of "max_streams_bidi" .word (·.maxStreamsBidi) ({ · with maxStreamsBidi := · }),
    .of "max_streams_uni" .word (·.maxStreamsUni) ({ · with maxStreamsUni := · }),
    .of "scid_length" .word (·.scidLength) ({ · with scidLength := · })] {}

/-- The settings of an endpoint as a whole in a document. -/
def EndpointSettings.form : Form EndpointSettings := .record
  [.of "max_connections" .word (·.maxConnections) ({ · with maxConnections := · }),
    .of "supported_versions" (.list (.number 0xffffffff)) (·.supportedVersions)
      ({ · with supportedVersions := · }),
    .of "accept_incoming" .flag (·.acceptIncoming) ({ · with acceptIncoming := · }),
    .of "stateless_reset" .flag (·.statelessReset) ({ · with statelessReset := · }),
    .of "event_channel_capacity" .word (·.eventChannelCapacity)
      ({ · with eventChannelCapacity := · })] {}

/-- The logging settings in a document. -/
def LoggingSettings.form : Form LoggingSettings := .record
  [.of "level" (.choice LogLevel.all LogLevel.name) (·.level) ({ · with level := · }),
    .of "enable_colors" .flag (·.enableColors) ({ · with enableColors := · }),
    .of "include_file_line" .flag (·.includeFileLine) ({ · with includeFileLine := · })] {}

namespace Settings

/-- All settings in a document. -/
def form : Form Settings := .record
  [.of "endpoint" EndpointSettings.form (·.endpoint) ({ · with endpoint := · }),
    .of "connection" ConnectionSettings.form (·.connection) ({ · with connection := · }),
    .of "logging" LoggingSettings.form (·.logging) ({ · with logging := · })] {}

/-- The settings that a document describes. -/
def ofDocument? (source : String) : Option Settings := do
  form.read (.table .header (← Toml.document? source))

/-- Settings as a document. -/
def document (s : Settings) : String :=
  match form.write s with
  | .table _ entries => Toml.documentText entries
  | v => v.text

end Settings

end QuicHost
