import IioXml.CString
import IioXml.Strtol
import IioXml.Sscanf
import IioXml.Document
import IioXml.Structs
import IioXml.ChannelsMask
import IioXml.ScanElement
import IioXml.FormatCodec
import IioXml.Builder
import IioXml.Denotation
import IioXml.Properties
import IioXml.XmlText
import IioXml.Composition
