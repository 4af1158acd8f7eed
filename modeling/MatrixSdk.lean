import MatrixSdk.Rust.Bytes
import MatrixSdk.Rust.Cursor
import MatrixSdk.Rust.Str
import MatrixSdk.Rust.Utf8
import MatrixSdk.Base64
import MatrixSdk.KeyExport.Basic
import MatrixSdk.KeyExport.Payload
import MatrixSdk.KeyExport.Format
import MatrixSdk.KeyExport.Armor
import MatrixSdk.KeyExport.Import
import MatrixSdk.KeyExport.Ctr
import MatrixSdk.QrCode.Record
import MatrixSdk.QrCode.Scan
import MatrixSdk.Requests
